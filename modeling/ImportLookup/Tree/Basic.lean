import ImportLookup.Path

/-!
# File trees

A tree is a finite map from places to nodes. A place is the list of names that leads to it from the
top, the innermost first, so that the place above is the tail. A node is a directory, a file with
its contents, or a symbolic link with the path it stands for. The top is always a directory.

The main operations are `node?`, `set` and `erase`; `children` lists what is directly inside a
place.
-/

namespace ImportLookup

/-- Where something is: the names that lead to it from the top, the innermost first. -/
abbrev Place := List Bytes

namespace Place

/-- The path from the top. -/
def path (p : Place) : Bytes := Path.slash :: Bytes.joinWith [Path.slash] p.reverse

/-- The place a cleaned absolute path names. -/
def ofPath (path : Bytes) : Place := (Path.names path).reverse

/-- Whether `p` is `above` or lies somewhere inside it. -/
def isWithin (above p : Place) : Bool := above.isSuffixOf p

end Place

/-- Permissions, as the nine bits for owner, group and others. -/
structure Mode where
  bits : Nat
deriving DecidableEq, Repr

namespace Mode

/-- What a new file is given: everyone reads, the owner writes. -/
def newFile : Mode := ⟨0o644⟩

/-- What a new directory is given. -/
def newDir : Mode := ⟨0o755⟩

/-- Whether the owner may read. -/
def canRead (m : Mode) : Bool := m.bits / 256 % 2 == 1

/-- Whether the owner may write. -/
def canWrite (m : Mode) : Bool := m.bits / 128 % 2 == 1

/-- Whether the owner may pass through. -/
def canSearch (m : Mode) : Bool := m.bits / 64 % 2 == 1

/-- The permissions in four octal digits. -/
def octal (m : Mode) : Bytes :=
  [m.bits / 512 % 8, m.bits / 64 % 8, m.bits / 8 % 8, m.bits % 8].flatMap Bytes.ofNat

end Mode

/-- What is at a place. -/
inductive Node where
  | dir (mode : Mode)
  | file (mode : Mode) (contents : Bytes)
  | link (target : Bytes)
deriving DecidableEq, Repr

/-- The nodes below the top; the first entry for a place counts. -/
structure Tree where
  nodes : List (Place × Node)
deriving Repr

namespace Tree

/-- The tree that has only its top. -/
def empty : Tree := ⟨[]⟩

/-- What is at a place. -/
def node? (t : Tree) : Place → Option Node
  | [] => some (.dir .newDir)
  | p => t.nodes.lookup p

private def setIn (p : Place) (n : Node) : List (Place × Node) → List (Place × Node)
  | [] => [(p, n)]
  | (q, m) :: rest => if q = p then (p, n) :: rest else (q, m) :: setIn p n rest

/-- The tree with a node put at a place, in the stead of any that was there. -/
def set (t : Tree) (p : Place) (n : Node) : Tree := ⟨setIn p n t.nodes⟩

private theorem lookup_setIn (p : Place) (n : Node) (nodes : List (Place × Node)) (q : Place) :
    (setIn p n nodes).lookup q = if q = p then some n else nodes.lookup q := by
  induction nodes with
  | nil => by_cases h : q = p <;> simp [setIn, h]
  | cons entry rest ih =>
    obtain ⟨r, m⟩ := entry
    rw [setIn]
    by_cases hr : r = p
    · rw [if_pos hr, ← hr]
      by_cases h : q = r
      · rw [if_pos h, h, List.lookup_cons_self]
      · have hb : (q == r) = false := beq_eq_false_iff_ne.mpr h
        rw [if_neg h, List.lookup_cons, List.lookup_cons, hb]
    · rw [if_neg hr]
      by_cases h : q = r
      · rw [h, if_neg hr, List.lookup_cons_self, List.lookup_cons_self]
      · have hb : (q == r) = false := beq_eq_false_iff_ne.mpr h
        rw [List.lookup_cons, List.lookup_cons, hb]
        exact ih

/-- What was set is found where it was set, and everything else where it was. -/
theorem node?_set {p : Place} (hp : p ≠ []) (t : Tree) (n : Node) (q : Place) :
    (t.set p n).node? q = if q = p then some n else t.node? q := by
  cases q with
  | nil => rw [if_neg (Ne.symm hp)]; rfl
  | cons name above => exact lookup_setIn p n t.nodes (name :: above)

private theorem map_setIn {α : Type} (f : Node → α) {p : Place} {m n : Node} (hf : f m = f n)
    {nodes : List (Place × Node)} (h : nodes.lookup p = some m) :
    (setIn p n nodes).map (fun entry => (entry.1, f entry.2))
      = nodes.map (fun entry => (entry.1, f entry.2)) := by
  induction nodes with
  | nil => simp at h
  | cons entry rest ih =>
    obtain ⟨r, k⟩ := entry
    rw [setIn]
    by_cases hr : r = p
    · subst hr
      have hk : k = m := by simpa using h
      simp [hk, hf]
    · have hpr : (p == r) = false := by simpa using Ne.symm hr
      rw [List.lookup_cons, hpr] at h
      simp [hr, ih h]

/-- A node replaced by one that looks the same under `f` leaves the whole tree looking the same. -/
theorem map_set {α : Type} (f : Node → α) {t : Tree} {p : Place} {m n : Node} (hp : p ≠ [])
    (h : t.node? p = some m) (hf : f m = f n) :
    (t.set p n).nodes.map (fun entry => (entry.1, f entry.2))
      = t.nodes.map (fun entry => (entry.1, f entry.2)) := by
  cases p with
  | nil => exact absurd rfl hp
  | cons name above => exact map_setIn f hf h

private theorem setIn_self {p : Place} {n : Node} {nodes : List (Place × Node)}
    (h : nodes.lookup p = some n) :
    setIn p n nodes = nodes := by
  induction nodes with
  | nil => simp at h
  | cons entry rest ih =>
    obtain ⟨r, m⟩ := entry
    rw [setIn]
    by_cases hr : r = p
    · subst hr
      have hm : m = n := by simpa using h
      rw [if_pos rfl, hm]
    · have hpr : (p == r) = false := by simpa using Ne.symm hr
      rw [List.lookup_cons, hpr] at h
      rw [if_neg hr, ih h]

/-- To put a node where it is changes nothing. -/
theorem set_self {t : Tree} {p : Place} {n : Node} (hp : p ≠ []) (h : t.node? p = some n) :
    t.set p n = t := by
  cases p with
  | nil => exact absurd rfl hp
  | cons name above => exact congrArg Tree.mk (setIn_self h)

private theorem setIn_comm {p q : Place} {k : Node} (hpq : p ≠ q) (n m : Node)
    {nodes : List (Place × Node)} (h : nodes.lookup p = some k) :
    setIn q m (setIn p n nodes) = setIn p n (setIn q m nodes) := by
  induction nodes with
  | nil => simp at h
  | cons entry rest ih =>
    obtain ⟨r, k'⟩ := entry
    by_cases hp : r = p
    · subst hp
      simp [setIn, hpq]
    · have hpr : (p == r) = false := by simpa using Ne.symm hp
      rw [List.lookup_cons, hpr] at h
      by_cases hq : r = q
      · subst hq
        simp [setIn, hp]
      · simp [setIn, hp, hq, ih h]

/-- Nodes can be put at two places in either order, if one of the places is taken. -/
theorem set_comm {t : Tree} {p q : Place} {k : Node} (hp : p ≠ []) (hpq : p ≠ q)
    (h : t.node? p = some k) (n m : Node) : (t.set p n).set q m = (t.set q m).set p n := by
  cases p with
  | nil => exact absurd rfl hp
  | cons name above => exact congrArg Tree.mk (setIn_comm hpq n m h)

/-- The tree without a place and all that is inside it. -/
def erase (t : Tree) (p : Place) : Tree := ⟨t.nodes.filter fun entry => !p.isWithin entry.1⟩

/-- What is directly inside a place, by name, in bytewise order. -/
def children (t : Tree) (p : Place) : List (Bytes × Node) :=
  let inside := t.nodes.filterMap fun
    | (name :: above, n) => if above = p then some (name, n) else none
    | ([], _) => none
  inside.mergeSort fun a b => a.1.le b.1

/-- The tree with a directory at a place and at every place above it, where nothing was. -/
def makeDirs (t : Tree) : Place → Tree
  | [] => t
  | name :: above =>
    let t := t.makeDirs above
    match t.node? (name :: above) with
    | none => t.set (name :: above) (.dir .newDir)
    | some _ => t

end Tree

end ImportLookup
