import ImportLookup.Proofs.SelectedEntries

/-!
# Two tests for a file

There are two ways to tell which files a run is about. A selection lists a directory
and believes the listing: it looks again only at what is listed as a link. The test
for single paths, which a watcher uses, knows no listing and follows each path.

The two agree on every entry of a directory, however the path to it is spelled, as
long as there is no step up in the path. The one exception are files that can be
listed and not be reached: their paths are too long to be followed, or names in
the directory may be read and not be looked up. The selection has them, the test for
single paths does not.
-/

namespace ImportLookup

namespace Bytes

theorem le_iff {a b : Bytes} : le a b = true ↔ a < b ∨ a = b := by
  induction a generalizing b with
  | nil => cases b <;> simp [le]
  | cons c cs ih =>
      cases b with
      | nil => simp [le]
      | cons c' cs' =>
          rw [le, Bool.or_eq_true, Bool.and_eq_true, ih, decide_eq_true_iff, beq_iff_eq,
            List.cons_lt_cons_iff, List.cons.injEq]
          grind

theorem le_trans {a b c : Bytes} (h : le a b = true) (h' : le b c = true) : le a c = true := by
  rw [le_iff] at h h' ⊢
  rcases h with h | rfl
  · rcases h' with h' | rfl
    · exact Or.inl (List.lt_trans h h')
    · exact Or.inl h
  · exact h'

theorem le_total (a b : Bytes) : (le a b || le b a) = true := by
  rw [Bool.or_eq_true, le_iff, le_iff]
  rcases Std.lt_trichotomy a b with h | h | h
  · exact Or.inl (Or.inl h)
  · exact Or.inl (Or.inr h)
  · exact Or.inr (Or.inl h)

end Bytes

namespace Tree

/-- **A directory is listed by name, and each name once.** -/
theorem Proper.pairwise_children {t : Tree} (h : t.Proper) (p : Place) :
    (t.children p).Pairwise fun a b => a.1 < b.1 := by
  have hle : (t.children p).Pairwise fun a b => a.1.le b.1 = true := by
    unfold children
    refine List.pairwise_mergeSort ?_ ?_ _
    · exact fun _ _ _ => Bytes.le_trans
    · exact fun a b => Bytes.le_total a.1 b.1
  have hne : (t.children p).Pairwise fun a b => a.1 ≠ b.1 := by
    refine ((List.mergeSort_perm _ _).pairwise_iff Ne.symm).mpr ?_
    refine List.Pairwise.filterMap _ ?_ (List.pairwise_map.mp h.once)
    rintro entry entry' hplaces ⟨name, n⟩ hentry ⟨name', n'⟩ hentry' hname
    -- two entries under one name would be two entries for one place
    rw [eq_of_inside hentry, eq_of_inside hentry'] at hplaces
    exact hplaces (congrArg (· :: p) hname)
  exact (hle.and hne).imp fun ⟨hle, hne⟩ => (Bytes.le_iff.mp hle).resolve_right hne

/-- In a directory that may not be searched no name leads anywhere. -/
theorem walk_closed {t : Tree} {p : Place} {m : Mode} (hnode : t.node? p = some (.dir m))
    (hclosed : m.canSearch = false) (purpose : Purpose) (links : Nat) (name : Bytes)
    (rest : List Bytes) (dirWanted : Bool) :
    t.walk purpose links p (name :: rest) dirWanted = .error .denied := by
  rw [walk_eq, walkNames, hnode]
  dsimp only
  rw [hclosed]
  rfl

end Tree

namespace Selection

/-- Whether an entry of a directory, a name and what is there, is selected. -/
def isChosen (d : Disk) (dir ext : Bytes) (entry : Bytes × Node) : Bool :=
  entry.1.endsWith ext && isFile d (Path.join dir entry.1) entry.2

theorem filterMap_chosen? (d : Disk) (dir ext : Bytes) (entries : List (Bytes × Node)) :
    entries.filterMap (chosen? d dir ext)
      = ((entries.filter (isChosen d dir ext)).map Prod.fst).map (Path.join dir) := by
  induction entries with
  | nil => rfl
  | cons entry entries ih =>
      rw [List.filterMap_cons, List.filter_cons, chosen?, ← isChosen, ih]
      cases isChosen d dir ext entry <;> rfl

/-! ## The two tests on an entry -/

/-- When the entry `n` of a directory with permissions `m` counts as a file for the test that
follows the path to it. -/
def Followed (d : Disk) (m : Mode) (path : Bytes) : Node → Prop
  | .dir _ => False
  | .file _ _ => m.canSearch = true ∧ path.length ≤ Tree.pathLimit
  | .link _ => ∃ q, d.Reaches path q

/-- A file that is listed and cannot be reached. -/
def Unreachable (m : Mode) (path : Bytes) : Node → Prop
  | .file _ _ => m.canSearch = false ∨ Tree.pathLimit < path.length
  | _ => False

/-- A listing is believed about files, and otherwise the path is followed. -/
theorem isFile_iff {d : Disk} {path : Bytes} {n : Node} (m : Mode) :
    isFile d path n = true ↔ Followed d m path n ∨ Unreachable m path n := by
  cases n with
  | dir m' => exact ⟨nofun, fun h => h.elim False.elim False.elim⟩
  | link target => exact isRegular_iff.trans (iff_of_eq (or_false _).symm)
  | file m' c =>
      refine iff_of_true rfl ?_
      rcases Bool.eq_false_or_eq_true m.canSearch with hsearch | hclosed
      · exact (Nat.lt_or_ge Tree.pathLimit path.length).elim (fun h => Or.inr (Or.inr h))
          fun h => Or.inl ⟨hsearch, h⟩
      · exact Or.inr (Or.inl hclosed)

section Entries

variable {d : Disk} {dir : Bytes} {p : Place} {m : Mode} {name : Bytes} {n : Node}

/-- Where the path to an entry that is no link leads. -/
theorem locate_join_of_not_link (hback : d.takesBackNoLink dir = true)
    (hdir : d.follow dir = .ok (p, .dir m)) (hname : EntryName name)
    (hnode : d.tree.node? (name :: p) = some n) (hlink : ∀ target, n ≠ .link target) :
    d.tree.locate d.cwd (Path.join dir name) .use
      = if (Path.join dir name).length > Tree.pathLimit then .error .nameTooLong
        else if m.canSearch then .ok (name :: p, some n) else .error .denied := by
  have hhere := Disk.node?_of_follow hdir
  obtain ⟨links, _, hloc⟩ := Disk.locate_join hback hdir hname
  rw [hloc]
  congr 1
  cases hsearch : m.canSearch with
  | true => exact Tree.walk_entry ⟨m, hhere, hsearch⟩ hname.descends hnode hlink links
  | false => exact Tree.walk_closed hhere hsearch _ _ _ _ _

/-- **The path of an entry leads to a file if the entry is one or a link to one.** -/
theorem isRegular_join (hback : d.takesBackNoLink dir = true)
    (hdir : d.follow dir = .ok (p, .dir m)) (hname : EntryName name)
    (hnode : d.tree.node? (name :: p) = some n) :
    isRegular d (Path.join dir name) = true ↔ Followed d m (Path.join dir name) n := by
  rw [isRegular_iff]
  cases n with
  | link target => exact Iff.rfl
  | dir m' =>
      have hloc := locate_join_of_not_link hback hdir hname hnode fun _ => nofun
      refine iff_of_false ?_ id
      rintro ⟨q, hq⟩
      obtain ⟨_, _, hq⟩ := Disk.reaches_iff_locate.mp hq
      rw [hloc] at hq
      split at hq
      · exact nomatch hq
      · split at hq <;> exact nomatch hq
  | file m' c =>
      have hloc := locate_join_of_not_link hback hdir hname hnode fun _ => nofun
      constructor
      · rintro ⟨q, hq⟩
        obtain ⟨_, _, hq⟩ := Disk.reaches_iff_locate.mp hq
        rw [hloc] at hq
        split at hq
        · exact nomatch hq
        · rename_i hshort
          split at hq
          · rename_i hsearch
            exact ⟨hsearch, Nat.not_lt.mp hshort⟩
          · exact nomatch hq
      · rintro ⟨hsearch, hshort⟩
        rw [if_neg (Nat.not_lt.mpr hshort), if_pos hsearch] at hloc
        exact ⟨_, Disk.reaches_iff_locate.mpr ⟨m', c, hloc⟩⟩

/-- The test for single paths, on the path to an entry. -/
theorem accepts_join (hback : d.takesBackNoLink dir = true) (hdir : d.follow dir = .ok (p, .dir m))
    (hname : EntryName name) (hnode : d.tree.node? (name :: p) = some n) (ext : Bytes) :
    accepts d (Path.join dir name) ext = true
      ↔ name.endsWith ext = true ∧ Followed d m (Path.join dir name) n := by
  obtain ⟨_, hne, _⟩ := Tree.walk_of_locate (Disk.locate_of_follow hdir)
  unfold accepts
  rw [Path.base_join hne hname, Bool.and_eq_true, isRegular_join hback hdir hname hnode]

/-- **An entry that is selected passes the test for single paths, unless it cannot be reached.** -/
theorem isChosen_iff (hback : d.takesBackNoLink dir = true) (hdir : d.follow dir = .ok (p, .dir m))
    (hname : EntryName name) (hnode : d.tree.node? (name :: p) = some n) (ext : Bytes) :
    isChosen d dir ext (name, n) = true ↔ accepts d (Path.join dir name) ext = true
      ∨ (name.endsWith ext = true ∧ Unreachable m (Path.join dir name) n) := by
  unfold isChosen
  rw [Bool.and_eq_true, isFile_iff m, accepts_join hback hdir hname hnode, and_or_left]

end Entries

/-! ## Selections -/

/-- A directory that can be listed is selected from. -/
theorem files_of_follow {d : Disk} {dir : Bytes} {p : Place} {m : Mode}
    (hdir : d.follow dir = .ok (p, .dir m)) (hread : m.canRead = true) (ext : Bytes) :
    files d dir ext = .ok ((d.tree.children p).filterMap (chosen? d dir ext)) := by
  unfold files Disk.stat Disk.list
  rw [hdir]
  dsimp only
  rw [hread, if_neg (by simp), if_pos rfl]
  rfl

theorem files_error_iff {d : Disk} {dir ext : Bytes} :
    (∃ e, files d dir ext = .error e)
      ↔ ¬ ∃ p m, d.follow dir = .ok (p, .dir m) ∧ m.canRead = true := by
  constructor
  · rintro ⟨e, he⟩ ⟨p, m, hdir, hread⟩
    rw [files_of_follow hdir hread] at he
    exact nomatch he
  · intro hnone
    cases h : files d dir ext with
    | error e => exact ⟨e, rfl⟩
    | ok paths =>
        obtain ⟨p, m, hdir, hread, _⟩ := files_of_ok h
        exact absurd ⟨p, m, hdir, hread⟩ hnone

/-- The files that are selected from the directory at `p`, by name. -/
def chosenNames (d : Disk) (dir ext : Bytes) (p : Place) : List Bytes :=
  ((d.tree.children p).filter (isChosen d dir ext)).map Prod.fst

theorem mem_chosenNames {d : Disk} {dir ext : Bytes} {p : Place} {name : Bytes} :
    name ∈ chosenNames d dir ext p
      ↔ ∃ n, (name, n) ∈ d.tree.children p ∧ isChosen d dir ext (name, n) = true := by
  unfold chosenNames
  simp only [List.mem_map, List.mem_filter, Prod.exists, exists_and_right, exists_eq_right]

theorem pairwise_chosenNames {d : Disk} (hproper : d.tree.Proper) (dir ext : Bytes) (p : Place) :
    (chosenNames d dir ext p).Pairwise (· < ·) :=
  List.pairwise_map.mpr ((hproper.pairwise_children p).filter _)

/-- The entries of the directory at `p`, which has permissions `m`, that are selected from it as
`dir`. -/
structure Selected (d : Disk) (dir ext : Bytes) (p : Place) (m : Mode) (names : List Bytes) :
    Prop where
  /-- They come by name, and none comes twice. -/
  sorted : names.Pairwise (· < ·)
  /-- Neither does a path. -/
  distinct : (names.map (Path.join dir)).Nodup
  /-- They are the entries that pass the test for single paths, and files out of reach. -/
  mem_iff (name : Bytes) : name ∈ names ↔ ∃ n, (name, n) ∈ d.tree.children p
    ∧ (accepts d (Path.join dir name) ext = true
      ∨ (name.endsWith ext = true ∧ Unreachable m (Path.join dir name) n))
  /-- Files within reach pass the test, links that lead to a file do, and directories and other
  links do not. -/
  accepts_iff (name : Bytes) (n : Node) : (name, n) ∈ d.tree.children p →
    (accepts d (Path.join dir name) ext = true
      ↔ name.endsWith ext = true ∧ Followed d m (Path.join dir name) n)

theorem selected_chosenNames {d : Disk} (hproper : d.tree.Proper) {dir : Bytes}
    (hback : d.takesBackNoLink dir = true) {p : Place} {m : Mode}
    (hdir : d.follow dir = .ok (p, .dir m)) (ext : Bytes) :
    Selected d dir ext p m (chosenNames d dir ext p) := by
  have hsorted := pairwise_chosenNames hproper dir ext p
  have hnodup : (chosenNames d dir ext p).Nodup :=
    List.Pairwise.imp
      (fun {a b} (hlt : a < b) (heq : a = b) => List.lt_irrefl b (heq ▸ hlt)) hsorted
  refine ⟨hsorted, ?_, ?_, ?_⟩
  · obtain ⟨_, hne, _⟩ := Tree.walk_of_locate (Disk.locate_of_follow hdir)
    refine hnodup.map_on fun name hname name' hname' heq => ?_
    obtain ⟨n, hmem, _⟩ := mem_chosenNames.mp hname
    obtain ⟨n', hmem', _⟩ := mem_chosenNames.mp hname'
    exact Path.join_inj hne (hproper.entryName hmem) (hproper.entryName hmem') heq
  · intro name
    rw [mem_chosenNames]
    refine exists_congr fun n => and_congr_right fun hmem => ?_
    exact isChosen_iff hback hdir (hproper.entryName hmem) (hproper.node?_of_mem hmem) ext
  · intro name n hmem
    exact accepts_join hback hdir (hproper.entryName hmem) (hproper.node?_of_mem hmem) ext

/--
**A selection is what the test for single paths leaves of the listing.**

It fails exactly if the path leads to no directory that can be listed. Otherwise it has the paths of
those entries that pass the test, and of files that are listed and cannot be reached.
-/
theorem files_filter_accepts {d : Disk} (hproper : d.tree.Proper) {dir : Bytes}
    (hup : Path.dotDot ∉ Path.names dir) (ext : Bytes) :
    ((∃ e, files d dir ext = .error e) ↔ ¬ ∃ p m, d.follow dir = .ok (p, .dir m) ∧ m.canRead = true)
      ∧ ∀ paths, files d dir ext = .ok paths → ∃ (p : Place) (m : Mode) (names : List Bytes),
          d.follow dir = .ok (p, .dir m) ∧ paths = names.map (Path.join dir)
            ∧ Selected d dir ext p m names := by
  refine ⟨files_error_iff, ?_⟩
  intro paths hfiles
  have hback : d.takesBackNoLink dir = true := Tree.takesBackNoLink_of_no_up hup _ _ _ _
  obtain ⟨p, m, hdir, _, hpaths⟩ := files_of_ok hfiles
  rw [filterMap_chosen?] at hpaths
  exact ⟨p, m, _, hdir, hpaths, selected_chosenNames hproper hback hdir ext⟩

/-- One entry of each kind: a file, a link to a file, a link to a directory, a link to nothing, a
link to itself and a directory. -/
def assorted : Disk where
  tree :=
    ⟨[([utf8 "d"], .dir .newDir), ([utf8 "s"], .link (utf8 "d")), ([utf8 "x"], .file .newFile []),
    ([utf8 "a.js", utf8 "d"], .file .newFile []), ([utf8 "b.js", utf8 "d"], .link (utf8 "../x")),
    ([utf8 "c.js", utf8 "d"], .link (utf8 "../d")),
    ([utf8 "e.js", utf8 "d"], .link (utf8 "nowhere")),
    ([utf8 "f.js", utf8 "d"], .link (utf8 "f.js")), ([utf8 "g.js", utf8 "d"], .dir .newDir)]⟩
  cwd := []

theorem files_filter_assorted :
    assorted.tree.Proper ∧ Path.dotDot ∉ Path.names (utf8 "s//.")
    ∧ files assorted (utf8 "s//.") (utf8 ".js") = .ok [utf8 "s/a.js", utf8 "s/b.js"]
    ∧ ∃ (p : Place) (m : Mode) (names : List Bytes), assorted.follow (utf8 "s//.") = .ok (p, .dir m)
        ∧ [utf8 "s/a.js", utf8 "s/b.js"] = names.map (Path.join (utf8 "s//."))
        ∧ Selected assorted (utf8 "s//.") (utf8 ".js") p m names := by
  have hproper : assorted.tree.Proper := by decide
  have hup : Path.dotDot ∉ Path.names (utf8 "s//.") := by decide
  have hdir : assorted.follow (utf8 "s//.") = .ok ([utf8 "d"], .dir .newDir) := by cbv
  have hchildren : assorted.tree.children [utf8 "d"]
      = [(utf8 "a.js", .file .newFile []), (utf8 "b.js", .link (utf8 "../x")),
        (utf8 "c.js", .link (utf8 "../d")),
        (utf8 "e.js", .link (utf8 "nowhere")), (utf8 "f.js", .link (utf8 "f.js")),
        (utf8 "g.js", .dir .newDir)] := by
    cbv
  have hfiles : files assorted (utf8 "s//.") (utf8 ".js") = .ok [utf8 "s/a.js", utf8 "s/b.js"] := by
    rw [files_of_follow hdir (by decide), hchildren]
    exact congrArg Except.ok (by decide +kernel)
  exact ⟨hproper, hup, hfiles, (files_filter_accepts hproper hup _).2 _ hfiles⟩

/-! ## Files out of reach -/

/-- As long a name as there can be. -/
def longName : Bytes := List.replicate 255 108

/-- A file, and under the long name a link to the directory that both are in. -/
def besideLoop : Disk where
  tree := ⟨[([utf8 "a.js"], .file .newFile (utf8 "let a;\n")), ([longName], .link Path.dot)]⟩
  cwd := []

/-- The path through the link, so many times over. -/
def around (n : Nat) : Bytes := Bytes.joinWith [Path.slash] (List.replicate n longName)

theorem entryName_longName : EntryName longName := by decide +kernel

theorem names_around (n : Nat) : Path.names (around n) = List.replicate n longName := by
  refine Path.names_joinWith fun name hname => ?_
  rw [List.eq_of_mem_replicate hname]
  exact entryName_longName.isName

/-- However often the link is gone through, the way ends where it began. -/
theorem walk_around (n links : Nat) :
    besideLoop.tree.walk .use (links + n) [] (List.replicate n longName) false
      = .ok ([], some (.dir .newDir)) := by
  have hopen : besideLoop.tree.Open [] := ⟨.newDir, rfl, by decide⟩
  have hnode : besideLoop.tree.node? [longName] = some (.link Path.dot) := by decide +kernel
  have hnames : Path.names Path.dot = [Path.dot] := by decide
  have hwants : Tree.wantsDir Path.dot = false := by decide
  induction n with
  | zero =>
      rw [Tree.walk_eq]
      rfl
  | succ n ih =>
      rw [List.replicate_succ, Tree.walk_name hopen entryName_longName.descends (Or.inr rfl), hnode]
      dsimp only
      rw [if_neg (by simp), if_neg (by decide), hwants, hnames, Bool.and_false, Bool.or_false, ← ih]
      exact Tree.walk_stay hopen

theorem follow_around : besideLoop.follow (around 16) = .ok ([], .dir .newDir) := by
  have hzero : 0 ∉ around 16 := by decide +kernel
  have hne : around 16 ≠ [] := by decide +kernel
  have hshort : ¬ (around 16).length > Tree.pathLimit := by decide +kernel
  have hwants : Tree.wantsDir (around 16) = false := by decide +kernel
  have hstart : (if Path.isAbsolute (around 16) then [] else besideLoop.cwd) = [] := ite_self _
  have hlinks : Tree.linkLimit = 24 + 16 := rfl
  unfold Disk.follow
  rw [Tree.locate_eq_walk _ _ hzero hne, if_neg hshort, names_around, hwants, hstart, hlinks,
    walk_around]

/-- A file beyond the longest path there can be is selected, and does not pass the test for single
paths. -/
theorem selected_out_of_reach :
    besideLoop.tree.Proper ∧ Path.dotDot ∉ Path.names (around 16)
    ∧ besideLoop.follow (around 16) = .ok ([], .dir .newDir)
    ∧ files besideLoop (around 16) (utf8 ".js") = .ok [Path.join (around 16) (utf8 "a.js")]
    ∧ accepts besideLoop (Path.join (around 16) (utf8 "a.js")) (utf8 ".js") = false := by
  have hchildren : besideLoop.tree.children []
      = [(utf8 "a.js", .file .newFile (utf8 "let a;\n")), (longName, .link Path.dot)] :=
    List.mergeSort_of_pairwise (by decide +kernel)
  have hchosen : chosen? besideLoop (around 16) (utf8 ".js")
      (utf8 "a.js", .file .newFile (utf8 "let a;\n"))
      = some (Path.join (around 16) (utf8 "a.js")) := if_pos (by decide)
  have hpassed : chosen? besideLoop (around 16) (utf8 ".js") (longName, .link Path.dot) = none :=
    if_neg (by decide +kernel)
  refine ⟨by decide +kernel, ?_, follow_around, ?_, by decide +kernel⟩
  · rw [names_around]
    exact fun hmem => absurd (List.eq_of_mem_replicate hmem) (by decide +kernel)
  · rw [files_of_follow follow_around (by decide), hchildren, List.filterMap_cons_some hchosen,
      List.filterMap_cons_none hpassed, List.filterMap_nil]

end Selection

end ImportLookup
