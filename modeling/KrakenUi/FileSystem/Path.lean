import Mathlib.Data.List.Infix

namespace FileSystem

/-!
# Names and paths

A name is what one entry of a directory can be called.  A path is the list of
names that leads to a file from the root.  What a program is given is a text of
bytes; its components can also be the root, the current directory or the parent,
which are no names.
-/

def slash : UInt8 := 47

def dot : UInt8 := 46

/-- The name of a directory entry. -/
structure Name where
  bytes : List UInt8
  nonempty : bytes ≠ []
  notCurrent : bytes ≠ [dot]
  notParent : bytes ≠ [dot, dot]
  noSlash : slash ∉ bytes
  deriving DecidableEq

abbrev Path := List Name

namespace Name

def ofBytes (bytes : List UInt8) : Option Name :=
  if named : bytes ≠ [] ∧ bytes ≠ [dot] ∧ bytes ≠ [dot, dot] ∧ slash ∉ bytes then
    some ⟨bytes, named.1, named.2.1, named.2.2.1, named.2.2.2⟩
  else none

/-- What follows the last dot, unless the name has no other dot than its first byte. -/
def extension (name : Name) : Option (List UInt8) :=
  match name.bytes.reverse.dropWhile (· != dot) with
  | [] | [_] => none
  | _ => some (name.bytes.reverse.takeWhile (· != dot)).reverse

/-- What is left without the extension. -/
def stem (name : Name) : List UInt8 :=
  match name.bytes.reverse.dropWhile (· != dot) with
  | [] | [_] => name.bytes
  | _ :: rest => rest.reverse

end Name

/-- The extension of a path is that of its last name. -/
def extension (path : Path) : Option (List UInt8) :=
  path.getLast?.bind Name.extension

/-- What can be put after the last dot. -/
structure Suffix where
  bytes : List UInt8
  nonempty : bytes ≠ []
  noDot : dot ∉ bytes
  noSlash : slash ∉ bytes

namespace Name

variable (name : Name)

theorem stem_ne_nil : name.stem ≠ [] := by
  unfold stem
  split
  · exact name.nonempty
  · exact name.nonempty
  · rename_i first rest several parts
    intro empty
    rw [List.reverse_eq_nil_iff] at empty
    subst empty
    exact several rfl

theorem stem_subset : name.stem ⊆ name.bytes := by
  unfold stem
  split
  · exact List.Subset.refl _
  · exact List.Subset.refl _
  · rename_i first rest several parts
    intro byte member
    rw [List.mem_reverse] at member
    have among : byte ∈ name.bytes.reverse.dropWhile (· != dot) := by
      rw [parts]
      exact List.mem_cons_of_mem _ member
    exact List.mem_reverse.mp ((List.dropWhile_sublist _).subset among)

/-- The name with another extension. -/
def withExtension (suffix : Suffix) : Name where
  bytes := name.stem ++ dot :: suffix.bytes
  nonempty := List.append_ne_nil_of_right_ne_nil _ (List.cons_ne_nil _ _)
  notCurrent := by
    intro same
    have length := congrArg List.length same
    have stem := List.length_pos_of_ne_nil name.stem_ne_nil
    simp only [List.length_append, List.length_cons, List.length_nil] at length
    omega
  notParent := by
    intro same
    have length := congrArg List.length same
    have stem := List.length_pos_of_ne_nil name.stem_ne_nil
    have ending := List.length_pos_of_ne_nil suffix.nonempty
    simp only [List.length_append, List.length_cons, List.length_nil] at length
    omega
  noSlash := by
    intro member
    rcases List.mem_append.mp member with before | after
    · exact name.noSlash (name.stem_subset before)
    · rcases List.mem_cons.mp after with same | inside
      · exact absurd same (by decide)
      · exact suffix.noSlash inside

theorem extension_withExtension (suffix : Suffix) :
    (name.withExtension suffix).extension = some suffix.bytes := by
  have ending : forall byte, byte ∈ suffix.bytes.reverse -> (byte != dot) = true := by
    intro byte member
    rw [bne_iff_ne]
    rintro rfl
    exact suffix.noDot (List.mem_reverse.mp member)
  unfold extension withExtension
  rw [List.reverse_append, List.reverse_cons, List.append_assoc,
    List.dropWhile_append_of_pos ending,
    List.takeWhile_append_of_pos ending]
  cases stem : name.stem.reverse with
  | nil => exact absurd (List.reverse_eq_nil_iff.mp stem) name.stem_ne_nil
  | cons first rest => simp

end Name

/-- The path with another extension; one that ends nowhere stays as it is. -/
def withExtension (path : Path) (suffix : Suffix) : Path :=
  match path.getLast? with
  | some name => path.dropLast ++ [name.withExtension suffix]
  | none => path

theorem withExtension_concat (directory : Path) (name : Name) (suffix : Suffix) :
    withExtension (directory ++ [name]) suffix = directory ++ [name.withExtension suffix] := by
  unfold withExtension
  rw [List.getLast?_concat]
  dsimp only
  rw [List.dropLast_concat]

inductive Component where
  | rootDir
  | curDir
  | parentDir
  | normal (name : Name)
  deriving DecidableEq

/-- Empty segments and single dots are no components. -/
def Component.ofSegment (segment : List UInt8) : Option Component :=
  if segment = [dot, dot] then some .parentDir
  else (Name.ofBytes segment).map .normal

/-- The components of a text.  A dot counts only at the very beginning. -/
def components (text : List UInt8) : List Component :=
  let segments := text.splitOn slash
  let rest := segments.filterMap Component.ofSegment
  if text.head? = some slash then .rootDir :: rest
  else if segments.head? = some [dot] then .curDir :: rest
  else rest

end FileSystem
