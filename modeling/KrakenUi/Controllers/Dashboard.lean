import KrakenUi.Models.VulnerabilityRepository

namespace KrakenUi

open Sql

/-!
# The charts of the dashboard

The answer to the dashboard carries three charts made from the findings: how
many findings each CMC module has, and the ten countries and addresses with the
most.  Without a database there is nothing to show.
-/

namespace Dashboard

open VulnerabilityRepository

/-- The part of `DashboardData` that comes from the database. -/
structure Charts where
  databaseAvailable : Bool
  cmcDetections : List (String × Nat)
  countries : List (String × Nat)
  clientIps : List (String × Nat)

def charts (wafDatabase : Option WafDatabase) (iteration : Iteration)
    (arrangement : GroupArrangement) : Charts :=
  match wafDatabase with
  | none => ⟨false, [], [], []⟩
  | some database =>
      { databaseAvailable := true
        cmcDetections := cmcModuleCounts database iteration
        countries := topCountries database arrangement 10
        clientIps := topClientIps database arrangement 10 }

end Dashboard

namespace VulnerabilityRepository

/-- The modules of the findings that a CMC rule has made. -/
def cmcModules (database : WafDatabase) : List String :=
  (database.rows.filter fun row => row.engine = "cmc").map fun row => cmcModule row.ruleMatch

/-- A match names its module between the prefix and the next colon. -/
theorem cmcModule_names {name rest : List Char} (some' : name ≠ []) (plain : ':' ∉ name)
    (ends : rest = [] ∨ rest.head? = some ':') :
    cmcModule (String.ofList ("cmc::".toList ++ (name ++ rest))) = String.ofList name := by
  have kept : name.takeWhile (· != ':') = name := by
    apply List.takeWhile_eq_self_iff.mpr
    intro character member
    apply bne_iff_ne.mpr
    rintro rfl
    exact plain member
  have first : (name ++ rest).takeWhile (· != ':') = name := by
    rcases ends with rfl | colon
    · rw [List.append_nil, kept]
    · cases rest with
      | nil => cases colon
      | cons character rest =>
          cases colon
          rw [List.takeWhile_append, kept, if_pos rfl, List.takeWhile_cons_of_neg (by simp),
            List.append_nil]
  have characters : (String.ofList ("cmc::".toList ++ (name ++ rest))).toList =
      "cmc::".toList ++ (name ++ rest) := String.toList_ofList
  have starts : "cmc::".toList.isPrefixOf ("cmc::".toList ++ (name ++ rest)) = true :=
    List.isPrefixOf_iff_prefix.mpr (List.prefix_append _ _)
  have behind : ("cmc::".toList ++ (name ++ rest)).drop 5 = name ++ rest := rfl
  unfold cmcModule
  rw [characters, if_pos starts, behind, first]
  cases name with
  | nil => exact absurd rfl some'
  | cons character name => rfl

theorem ranks_chartOrder : Ranks chartOrder := by
  apply Ranks.orderBy
  intro term member
  rcases List.mem_cons.mp member with rfl | later
  · exact Ranks.column Prod.snd true
  · rw [List.mem_singleton.mp later]
    exact Ranks.column Prod.fst false

/-- No two bars tie. -/
theorem chartOrder_antisymm (a b : String × Nat) (there : chartOrder a b)
    (back : chartOrder b a) : a = b := by
  have number : a.2 = b.2 := le_antisymm back.1 there.1
  have name : a.1 = b.1 := le_antisymm (there.2 back.1).1 (back.2 there.1).1
  exact Prod.ext name number

/-- The bars are the modules, each with its number of findings, in the one order
that the comparison allows. -/
theorem arranged_cmcModuleCounts (database : WafDatabase) (iteration : Iteration) :
    Arranged chartOrder (groups (cmcModules database))
      (cmcModuleCounts database iteration) := by
  have total : Std.Total chartOrder := ⟨ranks_chartOrder.total⟩
  have transitive : IsTrans (String × Nat) chartOrder := ⟨fun _ _ _ => ranks_chartOrder.trans⟩
  constructor
  · refine (List.perm_insertionSort chartOrder _).trans ((iteration.perm _).trans ?_)
    have counted := entries_tally (cmcModules database)
    unfold cmcModules at counted ⊢
    rw [← Function.comp_def, ← List.map_map] at counted ⊢
    exact counted
  · exact List.pairwise_insertionSort chartOrder _

/-- The labels of a chart of the most frequent values. -/
def labelled (database : WafDatabase) (label : Vulnerability -> String) : List String :=
  (database.rows.map label).filter fun value => value ≠ ""

theorem tops_aggregateColumn (database : WafDatabase) (arrangement : GroupArrangement)
    (label : Vulnerability -> String) (limit : Nat) :
    Tops (labelled database label) limit (aggregateColumn database arrangement label limit) :=
  tops_take (arrangement.arranged _) limit

theorem mem_cmcModuleCounts {database : WafDatabase} {iteration : Iteration} {label : String}
    {number : Nat} : (label, number) ∈ cmcModuleCounts database iteration ↔
      label ∈ cmcModules database ∧ number = (cmcModules database).count label := by
  rw [(arranged_cmcModuleCounts database iteration).perm.mem_iff, mem_groups]

end VulnerabilityRepository

namespace Dashboard

open VulnerabilityRepository

/-- The charts count every finding.  Each CMC finding is in the bar of its
module, which its match names, and in no other, in an order that no hash table
decides.  The charts of countries and addresses have exact numbers, and what
they leave out is not more frequent than anything they show. -/
theorem charts_count_every_finding (database : WafDatabase) (iteration : Iteration)
    (arrangement : GroupArrangement) :
    let shown := charts (some database) iteration arrangement
    (shown.cmcDetections.map Prod.fst).Nodup ∧
    (forall label number, (label, number) ∈ shown.cmcDetections ↔
      label ∈ cmcModules database ∧ number = (cmcModules database).count label) ∧
    total shown.cmcDetections = database.rows.countP (fun row => row.engine = "cmc") ∧
    shown.cmcDetections.Pairwise chartOrder ∧
    (forall other, (charts (some database) other arrangement).cmcDetections =
      shown.cmcDetections) ∧
    Tops (labelled database Vulnerability.country) 10 shown.countries ∧
    Tops (labelled database Vulnerability.clientIp) 10 shown.clientIps ∧
    forall name rest, name ≠ [] -> ':' ∉ name -> (rest = [] ∨ rest.head? = some ':') ->
      cmcModule (String.ofList ("cmc::".toList ++ (name ++ rest))) = String.ofList name := by
  have arranged := arranged_cmcModuleCounts database iteration
  refine ⟨?_, ?_, ?_, arranged.sorted, ?_, ?_, ?_, ?_⟩
  · exact (arranged.perm.map Prod.fst).nodup_iff.mpr (nodup_groups _)
  · intro label number
    exact mem_cmcModuleCounts
  · have all : total (cmcModuleCounts database iteration) = (cmcModules database).length :=
      (total_perm arranged.perm).trans (total_groups _)
    rw [List.countP_eq_length_filter]
    refine all.trans ?_
    unfold cmcModules
    rw [List.length_map]
  · intro other
    exact (arranged_cmcModuleCounts database other).unique chartOrder_antisymm arranged
  · exact tops_aggregateColumn database arrangement Vulnerability.country 10
  · exact tops_aggregateColumn database arrangement Vulnerability.clientIp 10
  · intro name rest filled plain ends
    exact cmcModule_names filled plain ends

end Dashboard
end KrakenUi
