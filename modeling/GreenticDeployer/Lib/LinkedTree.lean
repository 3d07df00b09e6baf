import Mathlib.Data.List.Basic

/-!
# Directory trees with links

A directory is its entries in the order in which they are read. A link names a path below
the root; a path is resolved one link at a time.
-/

set_option maxHeartbeats 200000

namespace GreenticDeployer.Lib

variable {γ : Type}

inductive Entries (γ : Type)
  | nil
  | file (name : String) (content : γ) (rest : Entries γ)
  | symlink (name : String) (target : List String) (rest : Entries γ)
  | directory (name : String) (children rest : Entries γ)

/-- What is at a path, the last link not followed. -/
inductive Kind (γ : Type)
  | file (content : γ)
  | symlink (target : List String)
  | directory
  deriving DecidableEq

namespace Entries

/-- What is at the path that starts with a name. -/
def kindBelow : Entries γ → String → List String → Option (Kind γ)
  | nil, _, _ => none
  | file name content rest, first, more =>
    if name = first then if more = [] then some (.file content) else none
    else rest.kindBelow first more
  | symlink name target rest, first, more =>
    if name = first then if more = [] then some (.symlink target) else none
    else rest.kindBelow first more
  | directory name children rest, first, more =>
    if name = first then
      match more with
      | [] => some .directory
      | second :: others => children.kindBelow second others
    else rest.kindBelow first more

def kindAt (tree : Entries γ) : List String → Option (Kind γ)
  | [] => some .directory
  | first :: more => tree.kindBelow first more

def subtreeBelow : Entries γ → String → List String → Option (Entries γ)
  | nil, _, _ => none
  | file name _ rest, first, more => if name = first then none else rest.subtreeBelow first more
  | symlink name _ rest, first, more =>
    if name = first then none else rest.subtreeBelow first more
  | directory name children rest, first, more =>
    if name = first then
      match more with
      | [] => some children
      | second :: others => children.subtreeBelow second others
    else rest.subtreeBelow first more

def subtree (tree : Entries γ) : List String → Option (Entries γ)
  | [] => some tree
  | first :: more => tree.subtreeBelow first more

@[simp] theorem kindAt_nil (tree : Entries γ) : tree.kindAt [] = some .directory := rfl

@[simp] theorem kindAt_cons (tree : Entries γ) (first : String) (more : List String) :
    tree.kindAt (first :: more) = tree.kindBelow first more := rfl

@[simp] theorem subtree_nil (tree : Entries γ) : tree.subtree [] = some tree := rfl

@[simp] theorem subtree_cons (tree : Entries γ) (first : String) (more : List String) :
    tree.subtree (first :: more) = tree.subtreeBelow first more := rfl

@[simp] theorem kindBelow_nil (first : String) (more : List String) :
    (nil : Entries γ).kindBelow first more = none := rfl

@[simp] theorem kindBelow_file (name : String) (content : γ) (rest : Entries γ) (first : String)
    (more : List String) :
    (file name content rest).kindBelow first more =
      if name = first then if more = [] then some (.file content) else none
      else rest.kindBelow first more := rfl

@[simp] theorem kindBelow_symlink (name : String) (target : List String) (rest : Entries γ)
    (first : String) (more : List String) :
    (symlink name target rest).kindBelow first more =
      if name = first then if more = [] then some (.symlink target) else none
      else rest.kindBelow first more := rfl

@[simp] theorem kindBelow_directory (name : String) (children rest : Entries γ) (first : String)
    (more : List String) :
    (directory name children rest).kindBelow first more =
      if name = first then children.kindAt more else rest.kindBelow first more := by
  cases more <;> rfl

@[simp] theorem subtreeBelow_nil (first : String) (more : List String) :
    (nil : Entries γ).subtreeBelow first more = none := rfl

@[simp] theorem subtreeBelow_file (name : String) (content : γ) (rest : Entries γ)
    (first : String) (more : List String) :
    (file name content rest).subtreeBelow first more =
      if name = first then none else rest.subtreeBelow first more := rfl

@[simp] theorem subtreeBelow_symlink (name : String) (target : List String) (rest : Entries γ)
    (first : String) (more : List String) :
    (symlink name target rest).subtreeBelow first more =
      if name = first then none else rest.subtreeBelow first more := rfl

@[simp] theorem subtreeBelow_directory (name : String) (children rest : Entries γ)
    (first : String) (more : List String) :
    (directory name children rest).subtreeBelow first more =
      if name = first then children.subtree more else rest.subtreeBelow first more := by
  cases more <;> rfl

theorem kindBelow_append {tree children : Entries γ} {first : String} {more : List String}
    (there : tree.subtreeBelow first more = some children) (path : List String) :
    tree.kindBelow first (more ++ path) = children.kindAt path := by
  induction tree generalizing first more with
  | nil => cases there
  | file name content rest ih =>
      simp only [subtreeBelow_file] at there
      split at there
      · cases there
      · rename_i other
        rw [kindBelow_file, if_neg other]
        exact ih there
  | symlink name target rest ih =>
      simp only [subtreeBelow_symlink] at there
      split at there
      · cases there
      · rename_i other
        rw [kindBelow_symlink, if_neg other]
        exact ih there
  | directory name inner rest innerIH restIH =>
      rw [subtreeBelow_directory] at there
      rw [kindBelow_directory]
      split at there
      · rename_i same
        rw [if_pos same]
        cases more with
        | nil =>
            cases there
            rfl
        | cons second others => exact innerIH there
      · rename_i other
        rw [if_neg other]
        exact restIH there

theorem kindAt_append {tree children : Entries γ} {at_ : List String}
    (there : tree.subtree at_ = some children) (path : List String) :
    tree.kindAt (at_ ++ path) = children.kindAt path := by
  cases at_ with
  | nil =>
      cases there
      rfl
  | cons first more => exact kindBelow_append there path

theorem kindBelow_eq_directory {tree : Entries γ} {first : String} {more : List String} :
    tree.kindBelow first more = some .directory ↔
      ∃ children, tree.subtreeBelow first more = some children := by
  induction tree generalizing first more with
  | nil => simp
  | file name content rest ih =>
      by_cases same : name = first
      · by_cases last : more = [] <;> simp [same, last]
      · simp [same, ih]
  | symlink name target rest ih =>
      by_cases same : name = first
      · by_cases last : more = [] <;> simp [same, last]
      · simp [same, ih]
  | directory name inner rest innerIH restIH =>
      by_cases same : name = first
      · cases more with
        | nil => simp [same]
        | cons second others => simp [same, innerIH]
      · simp [same, restIH]

theorem kindAt_eq_directory {tree : Entries γ} {path : List String} :
    tree.kindAt path = some .directory ↔ ∃ children, tree.subtree path = some children := by
  cases path with
  | nil => simp [subtree]
  | cons first more => exact kindBelow_eq_directory

@[simp] def names : Entries γ → List String
  | nil => []
  | file name _ rest | symlink name _ rest | directory name _ rest => name :: rest.names

/-- In every directory the entries have different names. -/
def Distinct : Entries γ → Prop
  | nil => True
  | file name _ rest | symlink name _ rest => name ∉ rest.names ∧ rest.Distinct
  | directory name children rest => name ∉ rest.names ∧ children.Distinct ∧ rest.Distinct

theorem kindBelow_of_not_mem {tree : Entries γ} {name : String} (absent : name ∉ tree.names)
    (more : List String) : tree.kindBelow name more = none := by
  induction tree with
  | nil => rfl
  | file other content rest ih | symlink other content rest ih =>
      obtain ⟨here, later⟩ := not_or.mp (List.mem_cons.not.mp absent)
      simp only [kindBelow_file, kindBelow_symlink, if_neg (Ne.symm here)]
      exact ih later
  | directory other children rest _ ih =>
      obtain ⟨here, later⟩ := not_or.mp (List.mem_cons.not.mp absent)
      rw [kindBelow_directory, if_neg (Ne.symm here)]
      exact ih later

theorem Distinct.subtreeBelow {tree children : Entries γ} (distinct : tree.Distinct)
    {first : String} {more : List String}
    (there : tree.subtreeBelow first more = some children) : children.Distinct := by
  induction tree generalizing first more with
  | nil => cases there
  | file name content rest ih | symlink name content rest ih =>
      simp only [subtreeBelow_file, subtreeBelow_symlink] at there
      split at there
      · cases there
      · exact ih distinct.2 there
  | directory name inner rest innerIH restIH =>
      rw [subtreeBelow_directory] at there
      split at there
      · cases more with
        | nil =>
            cases there
            exact distinct.2.1
        | cons second others => exact innerIH distinct.2.1 there
      · exact restIH distinct.2.2 there

theorem Distinct.subtree {tree children : Entries γ} (distinct : tree.Distinct)
    {path : List String} (there : tree.subtree path = some children) : children.Distinct := by
  cases path with
  | nil =>
      cases there
      exact distinct
  | cons first more => exact distinct.subtreeBelow there

section First

variable {name : String} {rest : Entries γ} {path : List String} {found : γ}

theorem file_of_file {content : γ} (fresh : name ∉ rest.names) :
    (file name content rest).kindAt path = some (.file found) ↔
      (path = [name] ∧ found = content) ∨ rest.kindAt path = some (.file found) := by
  cases path with
  | nil => simp
  | cons first more =>
      by_cases same : name = first
      · subst same
        by_cases last : more = []
        · simp [last, kindBelow_of_not_mem fresh, eq_comm]
        · simp [last, kindBelow_of_not_mem fresh]
      · simp [same, eq_comm (a := first)]

theorem file_of_symlink {target : List String} (fresh : name ∉ rest.names) :
    (symlink name target rest).kindAt path = some (.file found) ↔
      rest.kindAt path = some (.file found) := by
  cases path with
  | nil => simp
  | cons first more =>
      by_cases same : name = first
      · subst same
        by_cases last : more = [] <;> simp [last, kindBelow_of_not_mem fresh]
      · simp [same]

theorem file_of_directory {children : Entries γ} (fresh : name ∉ rest.names) :
    (directory name children rest).kindAt path = some (.file found) ↔
      (∃ inner, path = name :: inner ∧ children.kindAt inner = some (.file found)) ∨
        rest.kindAt path = some (.file found) := by
  cases path with
  | nil => simp
  | cons first more =>
      by_cases same : name = first
      · subst same
        simp [kindBelow_of_not_mem fresh]
      · simp [same, eq_comm (a := first)]

end First

theorem directory_of_below {tree : Entries γ} {first second : String} {more : List String}
    {kind : Kind γ} (there : tree.kindBelow first (second :: more) = some kind) :
    tree.kindBelow first [] = some .directory := by
  induction tree with
  | nil => cases there
  | file name content rest ih | symlink name content rest ih =>
      simp only [kindBelow_file, kindBelow_symlink] at there ⊢
      split at there
      · cases there
      · rename_i other
        rw [if_neg other]
        exact ih there
  | directory name children rest _ ih =>
      rw [kindBelow_directory] at there ⊢
      split at there
      · rename_i same
        rw [if_pos same]
        rfl
      · rename_i other
        rw [if_neg other]
        exact ih there

theorem kindBelow_prefix {tree : Entries γ} {first : String} {more later : List String}
    {kind : Kind γ} (there : tree.kindBelow first (more ++ later) = some kind) :
    ∃ above, tree.kindBelow first more = some above := by
  induction tree generalizing first more with
  | nil => cases there
  | file name content rest ih | symlink name content rest ih =>
      simp only [kindBelow_file, kindBelow_symlink] at there ⊢
      split at there
      · rename_i same
        split at there
        · rename_i last
          rw [if_pos same, if_pos (List.append_eq_nil_iff.mp last).1]
          exact ⟨_, rfl⟩
        · cases there
      · rename_i other
        rw [if_neg other]
        exact ih there
  | directory name children rest innerIH restIH =>
      rw [kindBelow_directory] at there ⊢
      split at there
      · rename_i same
        rw [if_pos same]
        cases more with
        | nil => exact ⟨.directory, rfl⟩
        | cons second others => exact innerIH there
      · rename_i other
        rw [if_neg other]
        exact restIH there

theorem kindAt_prefix {tree : Entries γ} {path later : List String} {kind : Kind γ}
    (there : tree.kindAt (path ++ later) = some kind) : ∃ above, tree.kindAt path = some above := by
  cases path with
  | nil => exact ⟨.directory, rfl⟩
  | cons first more => exact kindBelow_prefix there

/-- Replace a file, or add it last to its directory. Nothing is written over anything
else. -/
@[simp] def putBelow (content : γ) : Entries γ → String → List String → Entries γ
  | nil, first, more => if more = [] then file first content nil else nil
  | file name old rest, first, more =>
    if name = first then if more = [] then file name content rest else file name old rest
    else file name old (rest.putBelow content first more)
  | symlink name target rest, first, more =>
    if name = first then symlink name target rest
    else symlink name target (rest.putBelow content first more)
  | directory name children rest, first, more =>
    if name = first then
      match more with
      | [] => directory name children rest
      | second :: others => directory name (children.putBelow content second others) rest
    else directory name children (rest.putBelow content first more)

def put (content : γ) (tree : Entries γ) : List String → Entries γ
  | [] => tree
  | first :: more => tree.putBelow content first more

@[simp] def makeDirectory (name : String) : Entries γ → Entries γ
  | nil => directory name nil nil
  | file other content rest => file other content (rest.makeDirectory name)
  | symlink other target rest => symlink other target (rest.makeDirectory name)
  | directory other children rest => directory other children (rest.makeDirectory name)

/-- A file may be written there: the directory exists, and nothing but a file is in the
place. -/
def Writable (tree : Entries γ) (path : List String) : Prop :=
  tree.kindAt path.dropLast = some .directory ∧
    (tree.kindAt path = none ∨ ∃ old, tree.kindAt path = some (.file old))

/-- A write adds at most its own first name. -/
theorem names_putBelow (content : γ) (tree : Entries γ) (first : String) (more : List String) :
    (tree.putBelow content first more).names = tree.names ∨
      (tree.putBelow content first more).names = tree.names ++ [first] := by
  induction tree with
  | nil =>
      unfold putBelow
      split
      · exact .inr rfl
      · exact .inl rfl
  | file other old rest ih | symlink other old rest ih =>
      unfold putBelow
      repeat' split
      all_goals simp [ih]
  | directory other children rest _ ih =>
      unfold putBelow
      repeat' split
      all_goals simp [ih]

theorem mem_names_putBelow {content : γ} {tree : Entries γ} {first name : String}
    {more : List String} (member : name ∈ (tree.putBelow content first more).names) :
    name = first ∨ name ∈ tree.names := by
  rcases names_putBelow content tree first more with same | added
  · exact .inr (same ▸ member)
  · rw [added, List.mem_append, List.mem_singleton] at member
    exact member.symm

theorem Distinct.putBelow {tree : Entries γ} (distinct : tree.Distinct) (content : γ)
    (first : String) (more : List String) : (tree.putBelow content first more).Distinct := by
  induction tree generalizing first more with
  | nil =>
      unfold Entries.putBelow
      split
      · exact ⟨by simp, trivial⟩
      · trivial
  | file name old rest ih | symlink name old rest ih =>
      unfold Entries.putBelow
      split
      · first
          | exact distinct
          | split
            · exact distinct
            · exact distinct
      · rename_i other
        refine ⟨fun member => ?_, ih distinct.2 first more⟩
        rcases mem_names_putBelow member with same | old
        · exact other same
        · exact distinct.1 old
  | directory name children rest innerIH restIH =>
      unfold Entries.putBelow
      split
      · cases more with
        | nil => exact distinct
        | cons second others =>
            exact ⟨distinct.1, innerIH distinct.2.1 second others, distinct.2.2⟩
      · rename_i other
        refine ⟨fun member => ?_, distinct.2.1, restIH distinct.2.2 first more⟩
        rcases mem_names_putBelow member with same | old
        · exact other same
        · exact distinct.1 old

theorem Writable.of_same {tree tree' : Entries γ} {first : String} {more : List String}
    (same : ∀ path, tree.kindBelow first path = tree'.kindBelow first path)
    (writable : tree.Writable (first :: more)) : tree'.Writable (first :: more) := by
  obtain ⟨parent, place⟩ := writable
  refine ⟨?_, ?_⟩
  · cases more with
    | nil => rfl
    | cons second others =>
        rw [List.dropLast_cons_cons, kindAt_cons] at parent ⊢
        rwa [← same]
  · simp only [kindAt_cons, same] at place
    exact place

/-- A write changes what is at its path, and nothing else. -/
theorem kindBelow_putBelow {content : γ} {tree : Entries γ} {first : String} {more : List String}
    (writable : tree.Writable (first :: more)) (name : String) (path : List String) :
    (tree.putBelow content first more).kindBelow name path =
      if name = first ∧ path = more then some (.file content) else tree.kindBelow name path := by
  induction tree generalizing first more name path with
  | nil =>
      cases more with
      | nil => simp [eq_comm (a := first), ite_and]
      | cons second others => simp [Writable] at writable
  | file other old rest ih =>
      by_cases same : other = first
      · subst same
        cases more with
        | nil =>
            by_cases here : other = name
            · subst here
              by_cases last : path = [] <;> simp [last]
            · simp [here, eq_comm (a := name)]
        | cons second others =>
            have parent := writable.1
            rw [List.dropLast_cons_cons, kindAt_cons, kindBelow_file, if_pos rfl] at parent
            split at parent <;> cases parent
      · have below : rest.Writable (first :: more) :=
          writable.of_same fun path => by rw [kindBelow_file, if_neg same]
        rw [putBelow, if_neg same, kindBelow_file, kindBelow_file, ih below]
        by_cases here : other = name
        · subst here
          simp [same]
        · simp [here]
  | symlink other target rest ih =>
      by_cases same : other = first
      · subst same
        cases more with
        | nil => simp [Writable] at writable
        | cons second others => simp [Writable] at writable
      · have below : rest.Writable (first :: more) :=
          writable.of_same fun path => by rw [kindBelow_symlink, if_neg same]
        rw [putBelow, if_neg same, kindBelow_symlink, kindBelow_symlink, ih below]
        by_cases here : other = name
        · subst here
          simp [same]
        · simp [here]
  | directory other children rest innerIH restIH =>
      by_cases same : other = first
      · subst same
        cases more with
        | nil => simp [Writable] at writable
        | cons second others =>
            have inner : children.Writable (second :: others) := by
              obtain ⟨parent, place⟩ := writable
              simp only [kindAt_cons, kindBelow_directory, if_true] at place
              rw [List.dropLast_cons_cons, kindAt_cons, kindBelow_directory, if_pos rfl] at parent
              exact ⟨parent, place⟩
            have stepped : (directory other children rest).putBelow content other (second :: others) =
                directory other (children.putBelow content second others) rest := by
              simp only [putBelow, if_true]
            rw [stepped, kindBelow_directory, kindBelow_directory]
            by_cases here : other = name
            · subst here
              cases path with
              | nil => simp
              | cons third more' => simp [innerIH inner]
            · simp [here, eq_comm (a := name)]
      · have below : rest.Writable (first :: more) :=
          writable.of_same fun path => by rw [kindBelow_directory, if_neg same]
        have stepped : (directory other children rest).putBelow content first more =
            directory other children (rest.putBelow content first more) := by
          simp only [putBelow, if_neg same]
        rw [stepped, kindBelow_directory, kindBelow_directory, restIH below]
        by_cases here : other = name
        · subst here
          simp [same]
        · simp [here]

theorem Distinct.put {tree : Entries γ} (distinct : tree.Distinct) (content : γ)
    (path : List String) : (tree.put content path).Distinct := by
  cases path with
  | nil => exact distinct
  | cons first more => exact distinct.putBelow content first more

theorem kindAt_put {content : γ} {tree : Entries γ} {at_ : List String}
    (writable : tree.Writable at_) (path : List String) :
    (tree.put content at_).kindAt path =
      if path = at_ then some (.file content) else tree.kindAt path := by
  cases at_ with
  | nil => simp [Writable] at writable
  | cons first more =>
      cases path with
      | nil => simp
      | cons name others =>
          simp only [put, kindAt_cons, kindBelow_putBelow writable, List.cons.injEq]

theorem makeDirectory_names (name : String) (tree : Entries γ) :
    (tree.makeDirectory name).names = tree.names ++ [name] := by
  induction tree with
  | nil => rfl
  | file other content rest ih | symlink other content rest ih =>
      simp [ih]
  | directory other children rest _ ih => simp [ih]

theorem Distinct.makeDirectory {tree : Entries γ} (distinct : tree.Distinct) {name : String}
    (absent : name ∉ tree.names) : (tree.makeDirectory name).Distinct := by
  induction tree with
  | nil => exact ⟨by simp, trivial, trivial⟩
  | file other content rest ih | symlink other content rest ih =>
      obtain ⟨apart, later⟩ := not_or.mp (List.mem_cons.not.mp absent)
      refine ⟨?_, ih distinct.2 later⟩
      rw [makeDirectory_names, List.mem_append, List.mem_singleton, not_or]
      exact ⟨distinct.1, Ne.symm apart⟩
  | directory other children rest _ ih =>
      obtain ⟨apart, later⟩ := not_or.mp (List.mem_cons.not.mp absent)
      refine ⟨?_, distinct.2.1, ih distinct.2.2 later⟩
      rw [makeDirectory_names, List.mem_append, List.mem_singleton, not_or]
      exact ⟨distinct.1, Ne.symm apart⟩

theorem not_mem_names_of_kindAt {tree : Entries γ} {name : String}
    (absent : tree.kindAt [name] = none) : name ∉ tree.names := by
  intro member
  induction tree with
  | nil => cases member
  | file other content rest ih | symlink other content rest ih =>
      simp only [kindAt_cons, kindBelow_file, kindBelow_symlink] at absent
      split at absent
      · cases absent
      · rename_i apart
        rcases List.mem_cons.mp member with same | later
        · exact apart same.symm
        · exact ih absent later
  | directory other children rest _ ih =>
      rw [kindAt_cons, kindBelow_directory] at absent
      split at absent
      · cases absent
      · rename_i apart
        rcases List.mem_cons.mp member with same | later
        · exact apart same.symm
        · exact ih absent later

theorem kindBelow_makeDirectory {tree : Entries γ} {name : String}
    (absent : tree.kindAt [name] = none) (first : String) (more : List String) :
    (tree.makeDirectory name).kindBelow first more =
      if first = name ∧ more = [] then some .directory else tree.kindBelow first more := by
  have missing := not_mem_names_of_kindAt absent
  clear absent
  induction tree with
  | nil =>
      cases more with
      | nil => simp [eq_comm (a := name)]
      | cons second others => simp
  | file other content rest ih | symlink other content rest ih =>
      obtain ⟨apart, later⟩ := not_or.mp (List.mem_cons.not.mp missing)
      simp only [makeDirectory, kindBelow_file, kindBelow_symlink, ih later]
      by_cases here : other = first
      · subst here
        simp [Ne.symm apart]
      · simp [here]
  | directory other children rest _ ih =>
      obtain ⟨apart, later⟩ := not_or.mp (List.mem_cons.not.mp missing)
      rw [makeDirectory, kindBelow_directory, kindBelow_directory, ih later]
      by_cases here : other = first
      · subst here
        simp [Ne.symm apart]
      · simp [here]

theorem kindAt_makeDirectory {tree : Entries γ} {name : String}
    (absent : tree.kindAt [name] = none) (path : List String) :
    (tree.makeDirectory name).kindAt path =
      if path = [name] then some .directory else tree.kindAt path := by
  cases path with
  | nil => simp
  | cons first more =>
      simp only [kindAt_cons, kindBelow_makeDirectory absent, List.cons.injEq]

end Entries

section Resolve

variable (kindAt : List String → Option (Kind γ))

/-- Walk on from a directory; `follow` goes on from the root when a link is met. The last
name need not exist. -/
@[simp] def resolveFrom (follow : List String → Option (List String)) :
    List String → List String → Option (List String)
  | done, [] => some done
  | done, name :: rest =>
    match kindAt (done ++ [name]) with
    | some (.symlink target) => follow (target ++ rest)
    | some _ => resolveFrom follow (done ++ [name]) rest
    | none => if rest = [] then some (done ++ [name]) else none

/-- The path without links that a path leads to, over so many links at most. -/
def resolve : Nat → List String → Option (List String)
  | 0, path => resolveFrom kindAt (fun _ => none) [] path
  | links + 1, path => resolveFrom kindAt (resolve links) [] path

def directoryAt (links : Nat) (path : List String) : Option (List String) :=
  (resolve kindAt links path).filter fun found => (kindAt found).any fun kind =>
    match kind with
    | .directory => true
    | .file _ | .symlink _ => false

variable {kindAt}

theorem resolveFrom_last {done : List String} {name : String}
    (plain : ∀ target, kindAt (done ++ [name]) ≠ some (.symlink target))
    (follow : List String → Option (List String)) :
    resolveFrom kindAt follow done [name] = some (done ++ [name]) := by
  unfold resolveFrom
  cases there : kindAt (done ++ [name]) with
  | none => rfl
  | some kind =>
      cases kind with
      | symlink target => exact absurd there (plain target)
      | file content => rfl
      | directory => rfl

theorem resolve_of_resolveFrom {path found : List String}
    (plain : ∀ follow, resolveFrom kindAt follow [] path = some found) (links : Nat) :
    resolve kindAt links path = some found := by
  cases links with
  | zero => exact plain _
  | succ links => exact plain _

def NoLinks (kindAt : List String → Option (Kind γ)) : Prop :=
  ∀ path target, kindAt path ≠ some (.symlink target)

theorem NoLinks.resolveFrom_eq (plain : NoLinks kindAt)
    {follow : List String → Option (List String)} {done path found : List String}
    (walked : resolveFrom kindAt follow done path = some found) : found = done ++ path := by
  induction path generalizing done with
  | nil =>
      cases walked
      simp
  | cons name rest ih =>
      unfold resolveFrom at walked
      split at walked
      · rename_i target linked
        exact absurd linked (plain _ target)
      · rw [ih walked, List.append_assoc]
        rfl
      · split at walked
        · rename_i last
          cases walked
          rw [last]
        · cases walked

theorem NoLinks.resolve_eq (plain : NoLinks kindAt) {links : Nat} {path found : List String}
    (walked : resolve kindAt links path = some found) : found = path := by
  cases links with
  | zero => exact plain.resolveFrom_eq walked
  | succ links => exact plain.resolveFrom_eq walked

theorem NoLinks.resolve_there (plain : NoLinks kindAt) {path : List String}
    (there : ∀ above later, path = above ++ later → ∃ kind, kindAt above = some kind)
    (links : Nat) : resolve kindAt links path = some path := by
  have walks : ∀ follow rest done, path = done ++ rest →
      resolveFrom kindAt follow done rest = some path := by
    intro follow rest
    induction rest with
    | nil =>
        intro done whole
        rw [whole, List.append_nil]
        rfl
    | cons name rest ih =>
        intro done whole
        have next : path = (done ++ [name]) ++ rest := by rw [whole, List.append_assoc]; rfl
        obtain ⟨kind, here⟩ := there _ _ next
        unfold resolveFrom
        split
        · rename_i target linked
          exact absurd linked (plain _ target)
        · exact ih _ next
        · rename_i missing
          rw [here] at missing
          cases missing
  exact resolve_of_resolveFrom (fun follow => walks follow path [] rfl) links

theorem resolve_name {name : String} (plain : ∀ target, kindAt [name] ≠ some (.symlink target))
    (links : Nat) : resolve kindAt links [name] = some [name] :=
  resolve_of_resolveFrom (resolveFrom_last plain) links

end Resolve

end GreenticDeployer.Lib
