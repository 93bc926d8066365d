import KrakenUi.View.CmcRules
import Mathlib.Data.List.Nodup

namespace KrakenUi
namespace CmcRules

open JavaScript

/-!
# What the page submits

The rows show every change since the last search, and the loaded state of the
modules that were not changed since.  So everything is sent as the operator has
set it exactly when the last search shows every module and undoes no change
made before it.
-/

def Event.setting (name : JsString) : Event -> Option Bool
  | .change other checked => if other = name then some checked else none
  | .search _ => none

def Event.searched : Event -> Option JsString
  | .change _ _ => none
  | .search text => some text

/-- What the operator set a checkbox to most recently. -/
def lastSetting (name : JsString) (events : List Event) : Option Bool :=
  (events.filterMap (Event.setting name)).getLast?

/-- What stands in the search box. -/
def lastSearch (initial : JsString) (events : List Event) : JsString :=
  ((events.filterMap Event.searched).getLast?).getD initial

def sinceSearch (events : List Event) : List Event :=
  (events.reverse.takeWhile fun event => event.searched.isNone).reverse

/-- The last setting of a module, or its loaded status. -/
def wanted (item : Module) (events : List Event) : Bool :=
  (lastSetting item.name events).getD item.status

/-- The last search shows every module and undoes no change. -/
structure Undisturbed (toLowerCase : JsString -> JsString) (all : List Module)
    (initial : JsString) (events : List Event) : Prop where
  shown : forall item, item ∈ all -> shows toLowerCase (lastSearch initial events) item = true
  kept : forall item, item ∈ all -> lastSetting item.name (sinceSearch events) = none ->
    forall checked, lastSetting item.name events = some checked -> checked = item.status
  ordinary : forall item, item ∈ all -> item.name ≠ literal "__proto__"

section Settings

variable {name : JsString} {events : List Event}

theorem lastSetting_append (front back : List Event) :
    lastSetting name (front ++ back) =
      ((lastSetting name back).or (lastSetting name front)) := by
  unfold lastSetting
  rw [List.filterMap_append, List.getLast?_append]

theorem sinceSearch_search (text : JsString) : sinceSearch (events ++ [.search text]) = [] := by
  unfold sinceSearch
  rw [List.reverse_append, List.reverse_singleton, List.singleton_append,
    List.takeWhile_cons_of_neg (by simp [Event.searched])]
  rfl

theorem sinceSearch_change (other : JsString) (checked : Bool) :
    sinceSearch (events ++ [.change other checked]) =
      sinceSearch events ++ [.change other checked] := by
  unfold sinceSearch
  rw [List.reverse_append, List.reverse_singleton, List.singleton_append,
    List.takeWhile_cons_of_pos (by simp [Event.searched]), List.reverse_cons]

theorem lastSearch_search (initial text : JsString) :
    lastSearch initial (events ++ [.search text]) = text := by
  unfold lastSearch
  rw [List.filterMap_append, List.getLast?_append]
  rfl

theorem lastSearch_change (initial other : JsString) (checked : Bool) :
    lastSearch initial (events ++ [.change other checked]) = lastSearch initial events := by
  unfold lastSearch
  rw [List.filterMap_append, List.getLast?_append]
  rfl

/-- A change since the last search is the last change. -/
theorem lastSetting_of_since {checked : Bool}
    (since : lastSetting name (sinceSearch events) = some checked) :
    lastSetting name events = some checked := by
  have parts : events = (events.reverse.dropWhile fun event => event.searched.isNone).reverse ++
      sinceSearch events := by
    unfold sinceSearch
    rw [← List.reverse_append, List.takeWhile_append_dropWhile, List.reverse_reverse]
  rw [parts, lastSetting_append, since, Option.some_or]

end Settings

section Rows

variable {toLowerCase : JsString -> JsString} {all : List Module} {initial : JsString}

/-- What the page is after some events. -/
structure Shows (toLowerCase : JsString -> JsString) (all : List Module) (initial : JsString)
    (events : List Event) (page : Page) : Prop where
  list : page.all = all
  box : page.search = lastSearch initial events
  table : page.rows =
    (all.filter (shows toLowerCase (lastSearch initial events))).map fun item =>
      ⟨item.name, wanted item (sinceSearch events)⟩

theorem shows_load : Shows toLowerCase all initial [] (load toLowerCase all initial) where
  list := rfl
  box := rfl
  table := rfl

theorem Shows.step {events : List Event} {page next : Page} {event : Event}
    (shows' : Shows toLowerCase all initial events page)
    (stepped : CmcRules.step toLowerCase page event = some next) :
    Shows toLowerCase all initial (events ++ [event]) next := by
  cases event with
  | search text =>
      cases stepped
      refine ⟨shows'.list, (lastSearch_search initial text).symm, ?_⟩
      rw [lastSearch_search, sinceSearch_search, applyFilter, shows'.list]
      rfl
  | change name checked =>
      unfold CmcRules.step at stepped
      dsimp only at stepped
      split at stepped
      · cases stepped
        refine ⟨shows'.list, ?_, ?_⟩
        · rw [lastSearch_change]
          exact shows'.box
        · rw [lastSearch_change, sinceSearch_change]
          dsimp only
          rw [shows'.table, List.map_map]
          apply List.map_congr_left
          intro item _
          rw [Function.comp_apply]
          dsimp only
          unfold wanted
          rw [lastSetting_append]
          by_cases same : item.name = name
          · have here : lastSetting item.name [.change name checked] = some checked := by
              simp [lastSetting, Event.setting, same]
            rw [if_pos same, here]
            rfl
          · have elsewhere : lastSetting item.name [.change name checked] = none := by
              simp [lastSetting, Event.setting, Ne.symm same]
            rw [if_neg same, elsewhere, Option.none_or]
      · cases stepped

theorem shows_run {events : List Event} {page : Page}
    (ran : run toLowerCase (load toLowerCase all initial) events = some page) :
    Shows toLowerCase all initial events page := by
  induction events using List.reverseRecOn generalizing page with
  | nil =>
      cases ran
      exact shows_load
  | append_singleton events event inductionHypothesis =>
      rw [run, List.foldlM_append] at ran
      rcases Option.bind_eq_some_iff.mp ran with ⟨before, earlier, last⟩
      rw [List.foldlM_cons] at last
      rcases Option.bind_eq_some_iff.mp last with ⟨after, stepped, same⟩
      cases same
      exact (inductionHypothesis earlier).step stepped

/-- Rows with different names give one property each, but for the prototype. -/
theorem foldl_assign {rows : List Row} (distinct : (rows.map Row.name).Nodup) (object : Object)
    (apart : forall row, row ∈ rows -> forall property, property ∈ object ->
      property.1 ≠ row.name) :
    rows.foldl (fun object row => assign object row.name row.checked) object =
      object ++ (rows.filter fun row => row.name ≠ literal "__proto__").map fun row =>
        (row.name, row.checked) := by
  induction rows generalizing object with
  | nil => simp
  | cons row rows inductionHypothesis =>
      rw [List.map_cons, List.nodup_cons] at distinct
      have fresh : (object.any fun property => property.1 = row.name) = false := by
        rw [List.any_eq_false]
        intro property member
        simpa using apart row List.mem_cons_self property member
      have later : forall other, other ∈ rows -> forall property, property ∈ object ->
          property.1 ≠ other.name :=
        fun other among => apart other (List.mem_cons_of_mem _ among)
      rw [List.foldl_cons]
      by_cases prototype : row.name = literal "__proto__"
      · rw [assign, if_pos prototype, inductionHypothesis distinct.2 object later,
          List.filter_cons_of_neg (by simp [prototype])]
      · rw [assign, if_neg prototype, fresh, if_neg (by simp),
          inductionHypothesis distinct.2, List.filter_cons_of_pos (by simpa using prototype)]
        · simp
        · intro other among property member
          rcases List.mem_append.mp member with old | new
          · exact later other among property old
          · rw [List.mem_singleton.mp new]
            intro same
            exact distinct.1 (List.mem_map.mpr ⟨other, among, same.symm⟩)

end Rows

section Submission

variable {toLowerCase : JsString -> JsString} {all : List Module} {initial : JsString}
  {events : List Event} {page : Page}

/-- The properties that are assigned are those of the modules that are shown. -/
theorem assigned_eq (distinct : (all.map Module.name).Nodup)
    (shows' : Shows toLowerCase all initial events page) :
    page.rows.foldl (fun object row => assign object row.name row.checked) [] =
      (all.filter fun item => shows toLowerCase (lastSearch initial events) item &&
        decide (item.name ≠ literal "__proto__")).map fun item =>
          (item.name, wanted item (sinceSearch events)) := by
  have names : (page.rows.map Row.name).Nodup := by
    rw [shows'.table, List.map_map]
    have sublist : ((all.filter (shows toLowerCase (lastSearch initial events))).map
        (Row.name ∘ fun item : Module => (⟨item.name, wanted item (sinceSearch events)⟩ : Row))
          ).Sublist (all.map Module.name) := List.filter_sublist.map Module.name
    exact distinct.sublist sublist
  rw [foldl_assign names [] (by simp), List.nil_append, shows'.table, List.filter_map,
    List.map_map, List.filter_filter]
  congr 1
  apply List.filter_congr
  intro item _
  rw [Bool.and_comm]
  rfl

theorem eq_of_name (distinct : (all.map Module.name).Nodup) {one other : Module}
    (member : one ∈ all) (member' : other ∈ all) (same : one.name = other.name) : one = other :=
  List.inj_on_of_nodup_map distinct member member' same

/-- Everything that was loaded is sent as it was last set exactly when the last
search shows every module and undoes no change, and no module has the name of
the prototype. -/
theorem submits_all_iff (nonempty : all ≠ []) (distinct : (all.map Module.name).Nodup)
    (ran : run toLowerCase (load toLowerCase all initial) events = some page) :
    (Exists fun modules => submit page = some modules ∧
        modules.Perm (all.map fun item => (item.name, wanted item events))) ↔
      Undisturbed toLowerCase all initial events := by
  have shows' := shows_run ran
  have assigned := assigned_eq distinct shows'
  constructor
  · rintro ⟨modules, sent, permuted⟩
    have same : modules = page.rows.foldl
        (fun object row => assign object row.name row.checked) [] := by
      unfold submit at sent
      dsimp only at sent
      split at sent
      · cases sent
      · exact (Option.some.inj sent).symm
    rw [same, assigned] at permuted
    have counted := permuted.length_eq
    rw [List.length_map, List.length_map] at counted
    have everything := List.length_filter_eq_length_iff.mp counted
    have agreed : forall item, item ∈ all ->
        wanted item (sinceSearch events) = wanted item events := by
      intro item member
      have entry : (item.name, wanted item events) ∈
          all.map fun item => (item.name, wanted item events) :=
        List.mem_map.mpr ⟨item, member, rfl⟩
      rcases List.mem_map.mp (permuted.mem_iff.mpr entry) with ⟨other, among, pair⟩
      have names := congrArg Prod.fst pair
      have values := congrArg Prod.snd pair
      have identical := eq_of_name distinct (List.mem_of_mem_filter among) member names
      rw [identical] at values
      exact values
    refine ⟨?_, ?_, ?_⟩
    · intro item member
      have both := everything item member
      rw [Bool.and_eq_true] at both
      exact both.1
    · intro item member unchanged checked changed
      have values := agreed item member
      unfold wanted at values
      rw [unchanged, changed] at values
      exact values.symm
    · intro item member
      have both := everything item member
      rw [Bool.and_eq_true] at both
      exact of_decide_eq_true both.2
  · intro undisturbed
    have everything : all.filter (fun item =>
        shows toLowerCase (lastSearch initial events) item &&
          decide (item.name ≠ literal "__proto__")) = all := by
      apply List.filter_eq_self.mpr
      intro item member
      rw [undisturbed.shown item member, decide_eq_true (undisturbed.ordinary item member)]
      rfl
    have values : all.map (fun item => (item.name, wanted item (sinceSearch events))) =
        all.map fun item => (item.name, wanted item events) := by
      apply List.map_congr_left
      intro item member
      congr 1
      unfold wanted
      cases since : lastSetting item.name (sinceSearch events) with
      | some checked => rw [lastSetting_of_since since]
      | none =>
          cases changed : lastSetting item.name events with
          | none => rfl
          | some checked => exact (undisturbed.kept item member since checked changed).symm
    rw [everything, values] at assigned
    refine ⟨all.map fun item => (item.name, wanted item events), ?_, List.Perm.refl _⟩
    unfold submit
    dsimp only
    rw [assigned, if_neg (by simpa using nonempty)]

end Submission
end CmcRules

namespace Sample

open JavaScript CmcRules

def twoModules : List Module := [⟨literal "ssti", true⟩, ⟨literal "hpp", false⟩]

/-- A search that shows both modules, and a change after it. -/
def calmEvents : List Event := [.search (literal "s"), .search [], .change (literal "hpp") true]

theorem submits_all_iff_calm :
    Exists fun page => CmcRules.run id (load id twoModules []) calmEvents = some page ∧
      Exists fun modules => submit page = some modules ∧
        modules.Perm [(literal "ssti", true), (literal "hpp", true)] := by
  refine ⟨_, rfl, (@submits_all_iff id twoModules [] calmEvents _ (by decide) (by decide)
    rfl).mpr ⟨?_, ?_, ?_⟩⟩
  · decide
  · intro item member
    rcases List.mem_pair.mp member with rfl | rfl
    · intro _ checked changed
      cases changed
    · intro unchanged
      cases unchanged
  · decide

/-- The operator enables a module, and then searches for the other one. -/
def hastyEvents : List Event := [.change (literal "hpp") true, .search (literal "ss")]

/-- Only the module that the search shows is sent. -/
theorem module_left_out :
    Exists fun page => CmcRules.run id (load id twoModules []) hastyEvents = some page ∧
      submit page = some [(literal "ssti", true)] ∧
        ¬ [(literal "ssti", true)].Perm
          (twoModules.map fun item => (item.name, wanted item hastyEvents)) :=
  ⟨_, rfl, rfl, by decide⟩

end Sample
end KrakenUi
