import KrakenUi.Models.OperatorPages

namespace KrakenUi

open Text Sql VulnerabilityRepository

/-!
# Search texts mean themselves

Whatever percent signs, underscores and backslashes a search text has, the
pattern made of it is matched by the texts that contain it, and by no others.
-/

/-- Somewhere in the text stands the other one, up to the case of ASCII letters. -/
def ContainsText (search text : String) : Prop :=
  Exists fun before => Exists fun found => Exists fun after =>
    text.toList = before ++ (found ++ after) ∧
      found.map Char.toLower = search.toList.map Char.toLower

theorem containsText_iff_occurs (search text : String) :
    ContainsText search text ↔ Occurs search.toList text.toList := by
  constructor
  · rintro ⟨before, found, after, whole, same⟩
    refine ⟨before.map Char.toLower, after.map Char.toLower, ?_⟩
    rw [whole, List.map_append, List.map_append, same, List.append_assoc]
  · rintro ⟨front, back, whole⟩
    rw [List.append_assoc] at whole
    rcases List.map_eq_append_iff.mp whole.symm with ⟨before, rest, textEq, -, restEq⟩
    rcases List.map_eq_append_iff.mp restEq with ⟨found, after, rfl, foundEq, -⟩
    exact ⟨before, found, after, textEq, foundEq⟩

/-- An escaped pattern matches a text exactly when the text contains what was
searched for. -/
theorem like_matches_literally (search text : String) :
    isLike (likeContains search) text = true ↔ ContainsText search text := by
  rw [isLike_likeContains, containsText_iff_occurs]

/-- A search lists the operators whose name or address contains the text, and
the one whose number it is. -/
theorem operator_listed_iff {search : String} (asked : isEmpty search = false)
    (operator : Operator) :
    OperatorPage.isListed search operator = true ↔
      ContainsText search operator.username ∨ ContainsText search operator.email ∨
        parseI32 search = some operator.idUser := by
  unfold OperatorPage.isListed
  rw [asked, Bool.false_or, Bool.or_eq_true, Bool.or_eq_true, decide_eq_true_iff,
    isLike_likeContains, isLike_likeContains, containsText_iff_occurs, containsText_iff_occurs,
    or_assoc]

end KrakenUi
