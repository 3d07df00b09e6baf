import Mathlib.Order.Basic

/-!
# Directory trees

A directory as the list of its entries in name order, over any kind of file
contents, with the file operations that go by a path. Two trees are alike when
they differ only in the contents of files, and there only as a relation on the
path and the two contents permits.
-/

set_option maxHeartbeats 200000

namespace GreenticDeployer.Lib

inductive Listing (γ : Type)
  | nil
  | file (name : String) (content : γ) (rest : Listing γ)
  | symlink (name : String) (rest : Listing γ)
  | directory (name : String) (children rest : Listing γ)

namespace Listing

variable {γ : Type}

def lookup : List String → Listing γ → Option γ
  | _, nil => none
  | path, file name content rest => if path = [name] then some content else lookup path rest
  | path, symlink _ rest => lookup path rest
  | path, directory name children rest =>
    match path with
    | first :: second :: more =>
      if first = name then lookup (second :: more) children else lookup path rest
    | _ => lookup path rest

def remove : List String → Listing γ → Listing γ
  | _, nil => nil
  | path, file name content rest =>
    if path = [name] then remove path rest else file name content (remove path rest)
  | path, symlink name rest => symlink name (remove path rest)
  | path, directory name children rest =>
    match path with
    | first :: second :: more =>
      if first = name then directory name (remove (second :: more) children) (remove path rest)
      else directory name children (remove path rest)
    | _ => directory name children (remove path rest)

/-- Replace a file or add it in its place. Where the name is taken by something
else nothing is written. -/
def setFile (name : String) (content : γ) : Listing γ → Listing γ
  | nil => file name content nil
  | file other old rest =>
    if other = name then file name content rest
    else if name < other then file name content (file other old rest)
    else file other old (setFile name content rest)
  | symlink other rest =>
    if other = name then symlink other rest
    else if name < other then file name content (symlink other rest)
    else symlink other (setFile name content rest)
  | directory other children rest =>
    if other = name then directory other children rest
    else if name < other then file name content (directory other children rest)
    else directory other children (setFile name content rest)

/-- Change a directory, made first where there is none. -/
def enter (name : String) (change : Listing γ → Listing γ) : Listing γ → Listing γ
  | nil => directory name (change nil) nil
  | file other content rest =>
    if other = name then file other content rest
    else if name < other then directory name (change nil) (file other content rest)
    else file other content (enter name change rest)
  | symlink other rest =>
    if other = name then symlink other rest
    else if name < other then directory name (change nil) (symlink other rest)
    else symlink other (enter name change rest)
  | directory other children rest =>
    if other = name then directory other (change children) rest
    else if name < other then directory name (change nil) (directory other children rest)
    else directory other children (enter name change rest)

def write (content : γ) : List String → Listing γ → Listing γ
  | [], tree => tree
  | [name], tree => tree.setFile name content
  | name :: second :: more, tree => tree.enter name (write content (second :: more))

/-- The names of the files directly in a directory. -/
def fileNames : Listing γ → List String
  | nil => []
  | file name _ rest => name :: fileNames rest
  | symlink _ rest => fileNames rest
  | directory _ _ rest => fileNames rest

def subdirectory (name : String) : Listing γ → Listing γ
  | nil => nil
  | file _ _ rest => subdirectory name rest
  | symlink _ rest => subdirectory name rest
  | directory other children rest => if other = name then children else subdirectory name rest

/-- The same entries below the path `at_`, with contents the relation permits. -/
inductive Alike (permits : List String → γ → γ → Prop) : List String → Listing γ → Listing γ → Prop
  | nil {at_} : Alike permits at_ nil nil
  | file {at_ name left right rest rest'} (contents : permits (at_ ++ [name]) left right)
      (others : Alike permits at_ rest rest') :
      Alike permits at_ (file name left rest) (file name right rest')
  | symlink {at_ name rest rest'} (others : Alike permits at_ rest rest') :
      Alike permits at_ (symlink name rest) (symlink name rest')
  | directory {at_ name children children' rest rest'}
      (inner : Alike permits (at_ ++ [name]) children children')
      (others : Alike permits at_ rest rest') :
      Alike permits at_ (directory name children rest) (directory name children' rest')

namespace Alike

variable {permits permits' : List String → γ → γ → Prop} {at_ : List String}
variable {left right : Listing γ}

theorem refl (same : ∀ path content, permits path content content) (tree : Listing γ) :
    Alike permits at_ tree tree := by
  induction tree generalizing at_ with
  | nil => exact .nil
  | file name content rest ih => exact .file (same _ _) ih
  | symlink name rest ih => exact .symlink ih
  | directory name children rest inner outer => exact .directory inner outer

theorem mono (alike : Alike permits at_ left right)
    (weaker : ∀ name more first second, permits (at_ ++ name :: more) first second →
      permits' (at_ ++ name :: more) first second) :
    Alike permits' at_ left right := by
  induction alike with
  | nil => exact .nil
  | file contents _ ih => exact .file (weaker _ [] _ _ contents) (ih weaker)
  | symlink _ ih => exact .symlink (ih weaker)
  | @directory at_ dir _ _ _ _ _ _ inner outer =>
      refine .directory (inner ?_) (outer weaker)
      intro name more first second permitted
      simp only [List.append_assoc, List.singleton_append] at permitted ⊢
      exact weaker dir (name :: more) first second permitted

theorem lookup (alike : Alike permits at_ left right) (path : List String) :
    (left.lookup path = none ∧ right.lookup path = none) ∨
      ∃ first second, left.lookup path = some first ∧ right.lookup path = some second ∧
        permits (at_ ++ path) first second := by
  induction alike generalizing path with
  | nil => exact .inl ⟨rfl, rfl⟩
  | @file at_ name first second rest rest' contents others ih =>
      simp only [Listing.lookup]
      split
      · rename_i here
        subst here
        exact .inr ⟨first, second, rfl, rfl, contents⟩
      · exact ih path
  | symlink others ih => exact ih path
  | @directory at_ name children children' rest rest' inner others ihInner ihOuter =>
      match path with
      | [] => exact ihOuter []
      | [only] => exact ihOuter [only]
      | first :: second :: more =>
          simp only [Listing.lookup]
          split
          · rename_i here
            subst here
            simpa using ihInner (second :: more)
          · exact ihOuter _

theorem setFile (alike : Alike permits at_ left right) {name : String} {first second : γ}
    (contents : permits (at_ ++ [name]) first second) :
    Alike permits at_ (left.setFile name first) (right.setFile name second) := by
  induction alike with
  | nil => exact .file contents .nil
  | file old others ih =>
      simp only [Listing.setFile]
      split
      · exact .file contents others
      · split
        · exact .file contents (.file old others)
        · exact .file old (ih contents)
  | symlink others ih =>
      simp only [Listing.setFile]
      split
      · exact .symlink others
      · split
        · exact .file contents (.symlink others)
        · exact .symlink (ih contents)
  | directory inner others _ ih =>
      simp only [Listing.setFile]
      split
      · exact .directory inner others
      · split
        · exact .file contents (.directory inner others)
        · exact .directory inner (ih contents)

theorem enter (alike : Alike permits at_ left right) {name : String}
    {change change' : Listing γ → Listing γ}
    (changes : ∀ children children', Alike permits (at_ ++ [name]) children children' →
      Alike permits (at_ ++ [name]) (change children) (change' children')) :
    Alike permits at_ (left.enter name change) (right.enter name change') := by
  induction alike with
  | nil => exact .directory (changes _ _ .nil) .nil
  | file contents others ih =>
      simp only [Listing.enter]
      split
      · exact .file contents others
      · split
        · exact .directory (changes _ _ .nil) (.file contents others)
        · exact .file contents (ih changes)
  | symlink others ih =>
      simp only [Listing.enter]
      split
      · exact .symlink others
      · split
        · exact .directory (changes _ _ .nil) (.symlink others)
        · exact .symlink (ih changes)
  | directory inner others _ ih =>
      simp only [Listing.enter]
      split
      · rename_i here
        subst here
        exact .directory (changes _ _ inner) others
      · split
        · exact .directory (changes _ _ .nil) (.directory inner others)
        · exact .directory inner (ih changes)

theorem write (alike : Alike permits at_ left right) (path : List String) {first second : γ}
    (contents : permits (at_ ++ path) first second) :
    Alike permits at_ (left.write first path) (right.write second path) := by
  induction path generalizing at_ left right with
  | nil => exact alike
  | cons name more ih =>
      cases more with
      | nil => exact alike.setFile contents
      | cons second more =>
          refine alike.enter fun children children' inner => ih inner ?_
          simpa using contents

/-- What differs at one path alone is gone with the file there. -/
theorem remove {path : List String} (alike : Alike permits at_ left right)
    (elsewhere : ∀ other first second, other ≠ at_ ++ path → permits other first second →
      permits' other first second) :
    Alike permits' at_ (left.remove path) (right.remove path) := by
  induction alike generalizing path with
  | nil => exact .nil
  | @file at_ name first second rest rest' contents others ih =>
      simp only [Listing.remove]
      split
      · exact ih elsewhere
      · rename_i differs
        refine .file (elsewhere _ _ _ ?_ contents) (ih elsewhere)
        intro same
        exact differs (List.append_cancel_left same).symm
  | symlink others ih => exact .symlink (ih elsewhere)
  | @directory at_ name children children' rest rest' inner others ihInner ihOuter =>
      -- a directory the path does not lead into stays as it is
      have untouched : (∀ more, path ≠ name :: more) ∨ path.length ≤ 1 →
          Alike permits' (at_ ++ [name]) children children' := by
        intro outside
        refine inner.mono fun inside more first second permitted => ?_
        refine elsewhere _ _ _ ?_ permitted
        simp only [List.append_assoc, List.singleton_append]
        intro same
        have path_eq := (List.append_cancel_left same).symm
        rcases outside with apart | short
        · exact apart _ path_eq
        · rw [path_eq] at short
          simp at short
      match path with
      | [] => exact .directory (untouched (.inr (by simp))) (ihOuter elsewhere)
      | [only] => exact .directory (untouched (.inr (by simp))) (ihOuter elsewhere)
      | first :: second :: more =>
          simp only [Listing.remove]
          split
          · rename_i here
            subst here
            refine .directory (ihInner fun other left right apart => ?_) (ihOuter elsewhere)
            exact elsewhere other left right (by simpa using apart)
          · rename_i differs
            refine .directory (untouched (.inl fun rest same => ?_)) (ihOuter elsewhere)
            exact differs (List.cons.inj same).1

theorem fileNames (alike : Alike permits at_ left right) : left.fileNames = right.fileNames := by
  induction alike with
  | nil => rfl
  | file _ _ ih => simp only [Listing.fileNames, ih]
  | symlink _ ih => exact ih
  | directory _ _ _ ih => exact ih

theorem subdirectory (alike : Alike permits at_ left right) (name : String) :
    Alike permits (at_ ++ [name]) (left.subdirectory name) (right.subdirectory name) := by
  induction alike with
  | nil => exact .nil
  | file _ _ ih => exact ih
  | symlink _ ih => exact ih
  | directory inner _ _ ih =>
      simp only [Listing.subdirectory]
      split
      · rename_i here
        subst here
        exact inner
      · exact ih

end Alike

end Listing

end GreenticDeployer.Lib
