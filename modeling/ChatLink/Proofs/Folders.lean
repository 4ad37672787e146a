import ChatLink.Files.Store
import ChatLink.Proofs.Written

namespace ChatLink

theorem Location.child_ne_root (folder : Location) (name : String) : folder.child name ≠ "" := by
  intro root
  have characters := congrArg String.toList root
  rw [child, String.toList_append, String.toList_append] at characters
  have empty := (List.append_eq_nil_iff.mp (List.append_eq_nil_iff.mp characters).1).2
  exact absurd empty (by decide)

namespace Path

variable {path : List Char}

theorem trimSlashes_isPrefix (path : List Char) : trimSlashes path <+: path := by
  have trimmed := List.reverse_prefix.mpr (List.dropWhile_suffix (l := path.reverse) (· == '/'))
  rwa [List.reverse_reverse] at trimmed

theorem split_isPrefix (path : List Char) : (split path).1 <+: path := by
  have head : (path.reverse.dropWhile (· != '/')).reverse <+: path := by
    have dropped := List.reverse_prefix.mpr (List.dropWhile_suffix (l := path.reverse) (· != '/'))
    rwa [List.reverse_reverse] at dropped
  rw [split]
  dsimp only
  split
  · exact head
  · exact (trimSlashes_isPrefix _).trans head

theorem prefix_of_split {above name : List Char} (h : split path = (above, name)) :
    above <+: path := by
  have leading := split_isPrefix path
  rwa [h] at leading

end Path

namespace Store

variable {store later last : Store} {path : String} {content : Bytes} {location folder : Location}
  {names : List String}

def Leads (store : Store) (path : String) (location : Location) : Prop :=
  store.walk (store.start path) (Path.names path) = .ok location

def step (store : Store) (location : Location) (name : String) : Except FileError Location :=
  match store.get? location with
  | none => .error .missing
  | some (.file _) => .error .notFolder
  | some .device => .error .notFolder
  | some .folder =>
    if !(store.access location).read then .error .denied
    else if name = "." then .ok location
    else if name = ".." then .ok location.above
    else if maxName < (Utf8.encode name).length then .error .nameTooLong
    else .ok (location.child name)

theorem walk_cons (store : Store) (start : Location) (name : String) (rest : List String) :
    store.walk start (name :: rest) = store.step start name >>= (store.walk · rest) := by
  rw [walk, step]
  cases store.get? start with
  | none => rfl
  | some node =>
    cases node with
    | file | device => rfl
    | folder =>
      dsimp only
      split_ifs <;> rfl

theorem walk_concat (store : Store) (start : Location) (front : List String) (name : String) :
    store.walk start (front ++ [name]) = store.walk start front >>= (store.step · name) := by
  induction front generalizing start with
  | nil =>
    rw [List.nil_append, walk_cons, walk]
    change store.step start name >>= pure = store.step start name
    exact bind_pure _
  | cons first front ih =>
    rw [List.cons_append, walk_cons, walk_cons, bind_assoc]
    exact congrArg _ (funext ih)

theorem step_child {name : String} (there : store.get? folder = some .folder)
    (open_ : (store.access folder).read) (named : ¬(name = "." ∨ name = ".."))
    (short : ¬maxName < (Utf8.encode name).length) :
    store.step folder name = .ok (folder.child name) := by
  rw [not_or] at named
  rw [step, there]
  dsimp only
  rw [open_, if_neg (by decide), if_neg named.1, if_neg named.2, if_neg short]

theorem folder_of_step {name : String} (h : store.step folder name = .ok location) :
    store.get? folder = some .folder := by
  rw [step] at h
  split at h
  · cases h
  · cases h
  · cases h
  · assumption

theorem step_congr {name : String} (same : later.get? folder = store.get? folder)
    (access : later.access = store.access) : later.step folder name = store.step folder name := by
  rw [step, step, same, access]

/-- A way on which every folder is still there leads to the same place. -/
theorem walk_of_kept (access : later.access = store.access)
    (kept : ∀ location, store.get? location = some .folder → later.get? location = some .folder)
    {start : Location} (h : store.walk start names = .ok location) :
    later.walk start names = .ok location := by
  induction names generalizing start with
  | nil => exact h
  | cons name names ih =>
    rw [walk_cons] at h ⊢
    obtain ⟨next, first, h⟩ := exists_of_bind_eq_ok h
    have there := folder_of_step first
    rw [step_congr ((kept _ there).trans there.symm) access, first]
    exact ih h

theorem Leads.of_kept (h : store.Leads path location) (here : later.here = store.here)
    (access : later.access = store.access)
    (kept : ∀ location, store.get? location = some .folder → later.get? location = some .folder) :
    later.Leads path location := by
  have start : later.start path = store.start path := by rw [Store.start, Store.start, here]
  rw [Leads, start]
  exact walk_of_kept access kept h

theorem leads_of_place {name : String} (h : store.place path = .ok (folder, some name)) :
    checkPath path = .ok () ∧ store.Leads path (folder.child name) := by
  rw [place] at h
  obtain ⟨_, checked, h⟩ := exists_of_bind_eq_ok h
  obtain ⟨found, way, h⟩ := exists_of_bind_eq_ok h
  split at h
  · cases h
  · cases h
  · cases h
  rename_i there
  split at h
  · cases h
  rename_i final
  split at h
  · cases h
  rename_i passable
  split at h
  · cases h
  rename_i named
  split at h
  · cases h
  rename_i short
  cases h
  refine ⟨checked, ?_⟩
  rw [Leads, ← List.dropLast_append_getLast? _ final, walk_concat, way]
  exact step_child there (by simpa using passable) named short

theorem leads_of_makeFolder (h : store.makeFolder path = .ok later) : ∃ location,
    location ≠ "" ∧ store.Leads path location ∧ store.get? location = none ∧
      later = store.put location .folder := by
  rw [makeFolder] at h
  obtain ⟨⟨folder, name⟩, placed, h⟩ := exists_of_bind_eq_ok h
  cases name with
  | none => cases h
  | some name =>
    dsimp only at h
    split at h
    · cases h
    · rename_i absent
      split at h
      · cases h
        exact ⟨_, Location.child_ne_root folder name, (leads_of_place placed).2, absent, rfl⟩
      · cases h

/-- What a path needs to be opened for writing: a name in a folder that is there, where there is no
folder and writing is allowed. -/
structure Opens (store : Store) (path : String) (folder : Location) (name : String) : Prop where
  placed : store.place path = .ok (folder, some name)
  closed : Path.endsOpen path = false
  noFolder : store.get? (folder.child name) ≠ some .folder
  allowed : if (store.get? (folder.child name)).isSome then (store.access (folder.child name)).write
    else (store.access folder).write

theorem target_iff {node : Option FileNode} : store.target path = .ok (location, node) ↔
    ∃ folder name, store.Opens path folder name ∧ location = folder.child name ∧
      node = store.get? location := by
  constructor
  · intro h
    rw [target] at h
    obtain ⟨⟨folder, name⟩, placed, h⟩ := exists_of_bind_eq_ok h
    cases name with
    | none => cases h
    | some name =>
      dsimp only at h
      split at h
      · cases h
      rename_i closed
      rw [Bool.not_eq_true] at closed
      split at h
      · cases h
      · rename_i other there
        split at h
        · rename_i allowed
          cases h
          refine ⟨folder, name, ⟨placed, closed, ?_, by rwa [there]⟩, rfl, there.symm⟩
          rintro isFolder
          rw [there] at isFolder
          cases isFolder
          contradiction
        · cases h
      · rename_i absent
        split at h
        · rename_i allowed
          cases h
          exact ⟨folder, name, ⟨placed, closed, by rw [absent]; nofun, by rwa [absent]⟩, rfl,
            absent.symm⟩
        · cases h
  · rintro ⟨folder, name, ⟨placed, closed, noFolder, allowed⟩, rfl, rfl⟩
    rw [target, placed]
    dsimp only [bind, Except.bind]
    rw [closed, if_neg Bool.false_ne_true]
    cases there : store.get? (folder.child name) with
    | none =>
      rw [there] at allowed
      exact if_pos allowed
    | some node =>
      rw [there] at allowed
      cases node with
      | folder => exact absurd there noFolder
      | file | device => exact if_pos allowed

theorem leads_of_target {node : Option FileNode} (h : store.target path = .ok (location, node)) :
    location ≠ "" ∧ checkPath path = .ok () ∧ Path.endsOpen path = false ∧
      store.Leads path location ∧ store.get? location ≠ some .folder ∧ node = store.get? location := by
  obtain ⟨folder, name, opens, rfl, same⟩ := target_iff.mp h
  obtain ⟨checked, leads⟩ := leads_of_place opens.placed
  exact ⟨Location.child_ne_root folder name, checked, opens.closed, leads, opens.noFolder, same⟩

theorem get?_put_folder {node : FileNode} (h : store.get? location ≠ some .folder) (other : Location)
    (there : store.get? other = some .folder) : (store.put location node).get? other = some .folder := by
  rw [get?_put_of_ne store _ node, there]
  rintro rfl
  exact h there

theorem find_iff {node : FileNode} : store.find path = .ok (location, node) ↔
    checkPath path = .ok () ∧ store.Leads path location ∧ store.get? location = some node ∧
      (node = .folder ∨ Path.endsOpen path = false) := by
  constructor
  · intro h
    rw [find] at h
    obtain ⟨_, checked, h⟩ := exists_of_bind_eq_ok h
    obtain ⟨found, leads, h⟩ := exists_of_bind_eq_ok h
    split at h
    · cases h
    · rename_i there
      cases h
      exact ⟨checked, leads, there, .inl rfl⟩
    · rename_i there
      split at h
      · cases h
      · rename_i closed
        cases h
        exact ⟨checked, leads, there, .inr (Bool.eq_false_iff.mpr closed)⟩
  · rintro ⟨checked, leads, there, closed⟩
    rw [Leads] at leads
    rw [find, checked, ok_bind, leads, ok_bind, there]
    cases node with
    | folder => rfl
    | file | device =>
      obtain same | closed := closed
      · cases same
      · dsimp only
        rw [closed]
        rfl

theorem find_put_of_ne {place : Location} {node new : FileNode}
    (noFolder : store.get? location ≠ some .folder) (h : store.find path = .ok (place, node))
    (other : place ≠ location) : (store.put location new).find path = .ok (place, node) := by
  obtain ⟨checked, leads, there, closed⟩ := find_iff.mp h
  refine find_iff.mpr ⟨checked, leads.of_kept rfl rfl (get?_put_folder noFolder), ?_, closed⟩
  rw [get?_put_of_ne store other, there]

theorem read_of_find {node : FileNode} (h : store.find path = .ok (location, node)) :
    store.read path =
      if node = .folder then .error .isFolder
      else if !(store.access location).read then .error .denied
      else .ok node.content := by
  rw [read, h]
  rfl

theorem read_iff : store.read path = .ok content ↔ ∃ location node,
    store.find path = .ok (location, node) ∧ node ≠ .folder ∧ (store.access location).read ∧
      node.content = content := by
  constructor
  · intro h
    obtain ⟨⟨location, node⟩, found, -⟩ := exists_of_bind_eq_ok h
    rw [read_of_find found] at h
    split at h
    · cases h
    split at h
    · cases h
    · rename_i noFolder denied
      rw [Bool.not_eq_true', Bool.not_eq_false] at denied
      exact ⟨location, node, found, noFolder, denied, Except.ok.inj h⟩
  · rintro ⟨location, node, found, noFolder, allowed, rfl⟩
    rw [read_of_find found, if_neg noFolder, allowed]
    rfl

theorem write_of_target {node : Option FileNode} (h : store.target path = .ok (location, node)) :
    store.write path content =
      (if (store.access location).room.getD content.length < content.length then .error .noRoom
        else .ok (),
        if node = some .device then store
        else store.put location
          (.file (content.take ((store.access location).room.getD content.length)))) := by
  rw [write, h]
  dsimp only
  split <;> rfl

theorem write_ok (h : store.write path content = (.ok (), later)) : ∃ location node,
    store.target path = .ok (location, node) ∧
      ¬(store.access location).room.getD content.length < content.length ∧
      later = if node = some .device then store else store.put location (.file content) := by
  cases opened : store.target path with
  | error e =>
    rw [write, opened] at h
    cases h
  | ok found =>
    obtain ⟨location, node⟩ := found
    rw [write_of_target opened] at h
    obtain ⟨fits, rfl⟩ := Prod.mk.inj h
    by_cases short : (store.access location).room.getD content.length < content.length
    · rw [if_pos short] at fits
      cases fits
    · refine ⟨location, node, rfl, short, ?_⟩
      rw [List.take_of_length_le (Nat.not_lt.mp short)]

theorem write_error {error : FileError} (h : store.write path content = (.error error, later)) :
    later = store ∨ error = .noRoom ∧ ∃ location node, store.target path = .ok (location, node) ∧
      ∃ part, part <+: content ∧ later = store.put location (.file part) := by
  cases opened : store.target path with
  | error e =>
    rw [write, opened] at h
    exact .inl (Prod.mk.inj h).2.symm
  | ok found =>
    obtain ⟨location, node⟩ := found
    rw [write_of_target opened] at h
    obtain ⟨failed, rfl⟩ := Prod.mk.inj h
    by_cases device : node = some .device
    · exact .inl (if_pos device)
    · split at failed
      · cases failed
        exact .inr ⟨rfl, location, node, rfl, _, List.take_prefix _ _, if_neg device⟩
      · cases failed

def Takes (store : Store) (path : String) (size : Nat) : Prop :=
  ∃ folder name, store.Opens path folder name ∧
    ∀ room, (store.access (folder.child name)).room = some room → size ≤ room

theorem exists_write_iff :
    (∃ later, store.write path content = (.ok (), later)) ↔ store.Takes path content.length := by
  constructor
  · rintro ⟨later, put⟩
    obtain ⟨location, node, opened, fits, -⟩ := write_ok put
    obtain ⟨folder, last, opens, rfl, -⟩ := target_iff.mp opened
    refine ⟨folder, last, opens, fun room limited => ?_⟩
    rw [limited, Option.getD_some] at fits
    exact Nat.not_lt.mp fits
  · rintro ⟨folder, last, opens, fits⟩
    have opened := target_iff.mpr ⟨folder, last, opens, rfl, rfl⟩
    have enough : ¬(store.access (folder.child last)).room.getD content.length < content.length := by
      cases limited : (store.access (folder.child last)).room with
      | none => exact Nat.lt_irrefl _
      | some room => exact Nat.not_lt.mpr (fits room limited)
    rw [write_of_target opened, if_neg enough]
    exact ⟨_, rfl⟩

theorem find_of_write (h : store.write path content = (.ok (), later)) :
    later.access = store.access ∧ ∃ location,
      later.find path = .ok (location, .file content) ∨
        later.find path = .ok (location, .device) ∧ store.get? location = some .device := by
  obtain ⟨location, node, opened, -, rfl⟩ := write_ok h
  obtain ⟨away, checked, closed, leads, noFolder, there⟩ := leads_of_target opened
  by_cases device : node = some .device
  · rw [if_pos device]
    exact ⟨rfl, location, .inr ⟨find_iff.mpr ⟨checked, leads, there ▸ device, .inr closed⟩,
      there ▸ device⟩⟩
  · rw [if_neg device]
    exact ⟨rfl, location, .inl (find_iff.mpr ⟨checked, leads.of_kept rfl rfl (get?_put_folder noFolder),
      get?_put_self store away _, .inr closed⟩)⟩

/-- Nothing is gone, and all that is new are folders on the way along a path. -/
structure Paved (path : List Char) (store later : Store) : Prop where
  here : later.here = store.here
  access : later.access = store.access
  kept : ∀ location node, store.get? location = some node → later.get? location = some node
  added : ∀ location node, store.get? location = none → later.get? location = some node →
    node = .folder ∧ ∃ front, front <+: path ∧ later.Leads (.ofList front) location

namespace Paved

variable {way : List Char}

theorem refl (way : List Char) (store : Store) : Paved way store store where
  here := rfl
  access := rfl
  kept := fun _ _ => id
  added := fun _ _ absent there => by cases absent.symm.trans there

theorem leads (h : Paved way store later) (leads : store.Leads path location) :
    later.Leads path location :=
  leads.of_kept h.here h.access fun location => h.kept location .folder

theorem trans (h : Paved way store later) (h' : Paved way later last) : Paved way store last where
  here := h'.here.trans h.here
  access := h'.access.trans h.access
  kept := fun location node there => h'.kept location node (h.kept location node there)
  added := by
    intro location node absent there
    cases between : later.get? location with
    | none => exact h'.added location node between there
    | some earlier =>
      obtain rfl := Option.some.inj ((h'.kept location earlier between).symm.trans there)
      obtain ⟨same, front, leading, leads⟩ := h.added location earlier absent between
      exact ⟨same, front, leading, h'.leads leads⟩

theorem mono {further : List Char} (h : Paved way store later) (leading : way <+: further) :
    Paved further store later :=
  { h with added := fun location node absent there =>
      (h.added location node absent there).imp_right fun ⟨front, shorter, leads⟩ =>
        ⟨front, shorter.trans leading, leads⟩ }

theorem find {node : FileNode} (h : Paved way store later)
    (there : store.find path = .ok (location, node)) : later.find path = .ok (location, node) := by
  obtain ⟨checked, leads, there, closed⟩ := find_iff.mp there
  exact find_iff.mpr ⟨checked, h.leads leads, h.kept location _ there, closed⟩

theorem read (h : Paved way store later) (there : store.read path = .ok content) :
    later.read path = .ok content := by
  obtain ⟨location, node, found, noFolder, allowed, held⟩ := read_iff.mp there
  exact read_iff.mpr ⟨location, node, h.find found, noFolder, h.access ▸ allowed, held⟩

theorem get?_device (h : Paved way store later) (there : later.get? location = some .device) :
    store.get? location = some .device := by
  cases before : store.get? location with
  | none =>
    obtain ⟨same, -⟩ := h.added location _ before there
    cases same
  | some node => rw [← there, h.kept location node before]

end Paved

theorem paved_of_makeFolder {way : List Char} (h : store.makeFolder (.ofList way) = .ok later) :
    Paved way store later := by
  obtain ⟨location, away, leads, absent, rfl⟩ := leads_of_makeFolder h
  have kept : ∀ other node, store.get? other = some node →
      (store.put location .folder).get? other = some node := by
    intro other node there
    rw [get?_put_of_ne store _ .folder, there]
    rintro rfl
    cases absent.symm.trans there
  refine ⟨rfl, rfl, kept, fun other node before there => ?_⟩
  by_cases same : other = location
  · rw [same, get?_put_self store away] at there
    cases there
    have leads : (store.put location .folder).Leads (.ofList way) location :=
      leads.of_kept rfl rfl (kept · .folder)
    exact ⟨rfl, way, List.prefix_refl way, same ▸ leads⟩
  · rw [get?_put_of_ne store same, before] at there
    cases there

theorem paved_make (store : Store) (way : List Char) :
    Paved way store (makeFolders.make store way).2 := by
  rw [makeFolders.make]
  split
  · rename_i made
    exact paved_of_makeFolder made
  · exact .refl way store

theorem paved_close (name : List Char) (store : Store) (way : List Char) :
    Paved way store (makeFolders.close name store way).2 := by
  rw [makeFolders.close]
  split
  · exact .refl way store
  · exact paved_make store way

theorem paved_go (fuel : Nat) (store : Store) (way : List Char) :
    Paved way store (makeFolders.go fuel store way).2 := by
  induction fuel generalizing store way with
  | zero => exact .refl way store
  | succ fuel ih =>
    rw [makeFolders.go]
    split
    rename_i above name halves
    have leading : above <+: way := by
      split at halves
      · exact (Path.prefix_of_split halves).trans (Path.split_isPrefix way)
      · exact Path.prefix_of_split halves
    have before := (ih store above).mono leading
    split
    · exact paved_make store way
    · split
      · rename_i made
        rw [made] at before
        exact before.trans (paved_close name _ way)
      · rename_i made
        rw [made] at before
        exact before
      · rename_i made
        rw [made] at before
        exact before.trans (paved_close name _ way)

theorem paved_makeFolders [Machine] (store : Store) (path : String) :
    Paved path.toList store (store.makeFolders path).2 :=
  paved_go Machine.missing store path.toList

end Store

end ChatLink
