import ImportLookup.Proofs.CleanWalk
import ImportLookup.Proofs.RunScope

/-!
# What selected paths stand for

A selection lists a directory as the path to it leads there, but the paths it gives
out are made from the text of that path and cleaned. As long as no step up in the
path takes back the name of a link, the two agree: each path that is given out leads
to the very file that the entry of its name in the directory is, or that a link there
leads to (`denotes_entry`). A run over the directory then has to do with files that
are reached through it, and with no others.
-/

namespace ImportLookup

namespace Tree

/-- A tree as a file system has it: places are made of names that entries can have, and none is
there twice. -/
structure Proper (t : Tree) : Prop where
  names : ∀ entry ∈ t.nodes, ∀ name ∈ entry.1, EntryName name
  once : (t.nodes.map Prod.fst).Nodup

instance (t : Tree) : Decidable t.Proper :=
  decidable_of_iff ((∀ entry ∈ t.nodes, ∀ name ∈ entry.1, EntryName name)
    ∧ (t.nodes.map Prod.fst).Nodup)
    ⟨fun ⟨hnames, honce⟩ => ⟨hnames, honce⟩, fun h => ⟨h.names, h.once⟩⟩

/-- What is inside a place comes from an entry for it. -/
theorem eq_of_inside {p : Place} {entry : Place × Node} {name : Bytes} {n : Node}
    (h : (match entry with
      | (name :: above, n) => if above = p then some (name, n) else none
      | ([], _) => none) = some (name, n)) : entry = (name :: p, n) := by
  obtain ⟨place, n'⟩ := entry
  cases place with
  | nil => exact nomatch h
  | cons name' above =>
      dsimp only at h
      split at h
      · rename_i habove
        obtain ⟨rfl, rfl⟩ := Prod.mk.inj (Option.some.inj h)
        rw [habove]
      · exact nomatch h

theorem mem_children {t : Tree} {p : Place} {name : Bytes} {n : Node} :
    (name, n) ∈ t.children p ↔ (name :: p, n) ∈ t.nodes := by
  unfold children
  rw [List.mem_mergeSort, List.mem_filterMap]
  constructor
  · rintro ⟨entry, hmem, hentry⟩
    exact eq_of_inside hentry ▸ hmem
  · intro hmem
    exact ⟨(name :: p, n), hmem, if_pos rfl⟩

/-- What is listed under a name is what is there. -/
theorem Proper.node?_of_mem {t : Tree} (h : t.Proper) {p : Place} {name : Bytes} {n : Node}
    (hmem : (name, n) ∈ t.children p) : t.node? (name :: p) = some n := by
  obtain ⟨before, after, hnodes⟩ := List.append_of_mem (mem_children.mp hmem)
  show t.nodes.lookup (name :: p) = some n
  refine List.lookup_eq_some_iff.mpr ⟨before, after, hnodes, ?_⟩
  intro entry hentry
  have honce := h.once
  rw [hnodes, List.map_append, List.nodup_append] at honce
  rw [bne_iff_ne]
  exact fun heq => honce.2.2 _ (List.mem_map_of_mem hentry)
    _ (List.mem_map_of_mem List.mem_cons_self) heq.symm

theorem Proper.entryName {t : Tree} (h : t.Proper) {p : Place} {name : Bytes} {n : Node}
    (hmem : (name, n) ∈ t.children p) : EntryName name :=
  h.names _ (mem_children.mp hmem) name List.mem_cons_self

/-- Under this name the directory at `p` has the file at `q`, or a link that leads to it. -/
def EntryReaches (t : Tree) (p : Place) (name : Bytes) (q : Place) : Prop :=
  ∃ m c, t.walk .use linkLimit p [name] false = .ok (q, some (.file m c))

theorem EntryReaches.unique {t : Tree} {p q q' : Place} {name : Bytes} (h : t.EntryReaches p name q)
    (h' : t.EntryReaches p name q') : q = q' := by
  obtain ⟨m, c, hwalk⟩ := h
  obtain ⟨m', c', hwalk'⟩ := h'
  rw [hwalk] at hwalk'
  exact (Prod.mk.inj (Except.ok.inj hwalk')).1

section Files

variable {t : Tree} {p : Place} {name : Bytes} {m : Mode} {c : Bytes}

/-- To a file that is an entry itself it makes no difference how many links may be gone through. -/
theorem walk_links_of_file (hnode : t.node? (name :: p) = some (.file m c)) (links links' : Nat) :
    t.walk .use links p [name] false = t.walk .use links' p [name] false := by
  rw [walk_eq, walk_eq]
  simp only [walkNames, hnode]

/-- A walk to an entry that is no link ends there. -/
theorem walk_entry {n : Node} (hopen : t.Open p) (hname : Descends name)
    (hnode : t.node? (name :: p) = some n) (hlink : ∀ target, n ≠ .link target) (links : Nat) :
    t.walk .use links p [name] false = .ok (name :: p, some n) := by
  rw [walk_name hopen hname (Or.inr rfl), hnode]
  cases n with
  | link target => exact absurd rfl (hlink target)
  | dir m =>
      dsimp only
      rw [walk_eq, walkNames, hnode]
  | file m c =>
      dsimp only
      rw [walk_eq, walkNames, hnode]
      rfl

theorem entryReaches_of_file (hopen : t.Open p) (hname : Descends name)
    (hnode : t.node? (name :: p) = some (.file m c)) : t.EntryReaches p name (name :: p) :=
  ⟨m, c, walk_entry hopen hname hnode (fun _ => nofun) _⟩

end Files

end Tree

namespace Disk

theorem reaches_iff_locate {d : Disk} {path : Bytes} {q : Place} :
    d.Reaches path q ↔ ∃ m c, d.tree.locate d.cwd path .use = .ok (q, some (.file m c)) := by
  constructor
  · rintro ⟨m, c, hf⟩
    exact ⟨m, c, locate_of_follow hf⟩
  · rintro ⟨m, c, hloc⟩
    refine ⟨m, c, ?_⟩
    unfold follow
    rw [hloc]

end Disk

namespace Selection

/-- A selection goes through the listing of the directory that the path leads to. -/
theorem files_of_ok {d : Disk} {dir ext : Bytes} {paths : List Bytes}
    (h : files d dir ext = .ok paths) :
    ∃ p m, d.follow dir = .ok (p, .dir m) ∧ m.canRead = true
      ∧ paths = (d.tree.children p).filterMap (chosen? d dir ext) := by
  unfold files at h
  split at h
  · exact nomatch h
  split at h
  · exact nomatch h
  split at h
  · exact nomatch h
  rename_i entries hlist
  have hpaths : entries.filterMap (chosen? d dir ext) = paths := Except.ok.inj h
  unfold Disk.list at hlist
  split at hlist
  · rename_i p m hf
    split at hlist
    · rename_i hread
      exact ⟨p, m, hf, hread, by rw [← hpaths, ← Except.ok.inj hlist]⟩
    · exact nomatch hlist
  · exact nomatch hlist
  · exact nomatch hlist

theorem mem_files {d : Disk} {p : Place} {dir ext path : Bytes}
    (h : path ∈ (d.tree.children p).filterMap (chosen? d dir ext)) :
    ∃ name n, (name, n) ∈ d.tree.children p ∧ path = Path.join dir name ∧ name.endsWith ext = true
      ∧ isFile d path n = true := by
  obtain ⟨⟨name, n⟩, hmem, hchosen⟩ := List.mem_filterMap.mp h
  unfold chosen? at hchosen
  split at hchosen
  · rename_i hboth
    rw [Bool.and_eq_true] at hboth
    have hpath := Option.some.inj hchosen
    exact ⟨name, n, hmem, hpath.symm, hboth.1, hpath ▸ hboth.2⟩
  · exact nomatch hchosen

/-- The path stands for the entry of this name in the directory at `p`, whose permissions are
`m`. -/
structure Denotes (d : Disk) (p : Place) (m : Mode) (name path : Bytes) : Prop where
  /-- It leads to the file that the entry leads to and to no other, unless it is too long to be
  followed. -/
  reaches_iff : ∀ q, d.Reaches path q ↔ path.length ≤ Tree.pathLimit ∧ d.tree.EntryReaches p name q
  /-- There is such a file, if names in the directory may be looked up. -/
  file : m.canSearch = true → ∃ q, d.tree.EntryReaches p name q

/-- **The path of an entry that counts as a file stands for this entry.** -/
theorem denotes_entry {d : Disk} {dir : Bytes} (hback : d.takesBackNoLink dir = true)
    {p : Place} {m : Mode} (hdir : d.follow dir = .ok (p, .dir m)) {name : Bytes}
    (hname : EntryName name) {n : Node}
    (hnode : d.tree.node? (name :: p) = some n) (hfile : isFile d (Path.join dir name) n = true) :
    Denotes d p m name (Path.join dir name) := by
  obtain ⟨links, hlinks, hloc⟩ := Disk.locate_join hback hdir hname
  -- what is found behind the links to the directory is found from the directory itself
  have hreaches : ∀ q, d.Reaches (Path.join dir name) q →
      (Path.join dir name).length ≤ Tree.pathLimit ∧ d.tree.EntryReaches p name q := by
    intro q hq
    obtain ⟨m', c, hq⟩ := Disk.reaches_iff_locate.mp hq
    rw [hloc] at hq
    split at hq
    · exact nomatch hq
    · rename_i hlong
      exact ⟨Nat.not_lt.mp hlong, m', c, Tree.walk_mono hlinks hq⟩
  cases n with
  | dir m' => exact nomatch hfile
  | file m' c =>
      refine ⟨fun q => ⟨hreaches q, ?_⟩, ?_⟩
      · rintro ⟨hshort, m'', c', hwalk⟩
        refine Disk.reaches_iff_locate.mpr ⟨m'', c', ?_⟩
        rw [hloc, if_neg (Nat.not_lt.mpr hshort),
          Tree.walk_links_of_file hnode links Tree.linkLimit]
        exact hwalk
      · intro hsearch
        exact ⟨_, Tree.entryReaches_of_file ⟨m, Disk.node?_of_follow hdir,
          hsearch⟩ hname.descends hnode⟩
  | link target =>
      -- the path was followed when the entry was chosen
      obtain ⟨q', hq'⟩ := isRegular_iff.mp hfile
      refine ⟨fun q => ⟨hreaches q, ?_⟩, fun _ => ⟨q', (hreaches q' hq').2⟩⟩
      rintro ⟨_, hentry⟩
      rw [hentry.unique (hreaches q' hq').2]
      exact hq'

/-- A file that is reached through the directory at `p`, under a name with the extension. -/
def InDir (d : Disk) (p : Place) (ext : Bytes) (q : Place) : Prop :=
  ∃ name n, (name, n) ∈ d.tree.children p ∧ name.endsWith ext = true ∧ d.tree.EntryReaches p name q

end Selection

namespace Run

open Selection

/-- **Selected paths stand for the entries that are listed**, and a run keeps to the files that are
reached through its directory, if no step up in the path to it takes back the name of a link. -/
theorem selected_denote_entries (o : RunOptions) (patience : Option Nat) {s : Session}
    {dir ext : Bytes} {paths : List Bytes} (hproper : s.disk.tree.Proper)
    (hback : s.disk.takesBackNoLink dir = true)
    (hsel : Selection.files s.disk dir ext = .ok paths) :
    ∃ p m, s.disk.follow dir = .ok (p, .dir m)
      ∧ (∀ path ∈ paths, ∃ name n, (name, n) ∈ s.disk.tree.children p ∧ path = Path.join dir name
          ∧ name.endsWith ext = true ∧ Denotes s.disk p m name path)
      ∧ Confined (InDir s.disk p ext) o patience s dir ext := by
  obtain ⟨p, m, hdir, _, hpaths⟩ := files_of_ok hsel
  have hdenotes : ∀ path ∈ paths,
      ∃ name n, (name, n) ∈ s.disk.tree.children p ∧ path = Path.join dir name
      ∧ name.endsWith ext = true ∧ Denotes s.disk p m name path := by
    intro path hpath
    rw [hpaths] at hpath
    obtain ⟨name, n, hmem, rfl, hext, hfile⟩ := mem_files hpath
    exact ⟨name, n, hmem, rfl, hext,
      denotes_entry hback hdir (hproper.entryName hmem) (hproper.node?_of_mem hmem) hfile⟩
  refine ⟨p, m, hdir, hdenotes, dir_confined hsel ?_ o patience⟩
  intro path hpath q hq
  obtain ⟨name, n, hmem, _, hext, hdenote⟩ := hdenotes path hpath
  exact ⟨name, n, hmem, hext, ((hdenote.reaches_iff q).mp hq).2⟩

/-- A directory with a file and with a link to a file outside of it. The path to it goes through a
link, has an empty name and a dot in it, and takes back the name of a directory. -/
def roundabout : Session :=
  { disk :=
      { tree := ⟨[([utf8 "w"], .dir .newDir), ([utf8 "d", utf8 "w"], .dir .newDir),
          ([utf8 "e", utf8 "d", utf8 "w"], .dir .newDir),
          ([utf8 "a.js", utf8 "d", utf8 "w"], .file .newFile (utf8 "import * as A from \"a\";\n")),
          ([utf8 "b.js", utf8 "d", utf8 "w"], .link (utf8 "../x.js")),
          ([utf8 "x.js", utf8 "w"], .file .newFile (utf8 "import * as X from \"x\";\n")),
          ([utf8 "s", utf8 "w"], .link (utf8 "d"))]⟩
        cwd := [utf8 "w"] } }

theorem selected_denote_roundabout :
    roundabout.disk.tree.Proper
    ∧ roundabout.disk.takesBackNoLink (utf8 "s//./e/../") = true
    ∧ Selection.files roundabout.disk (utf8 "s//./e/../") (utf8 ".js")
        = .ok [utf8 "s/a.js", utf8 "s/b.js"]
    ∧ ∃ p m, roundabout.disk.follow (utf8 "s//./e/../") = .ok (p, .dir m)
      ∧ (∀ path ∈ [utf8 "s/a.js", utf8 "s/b.js"],
          ∃ name n, (name, n) ∈ roundabout.disk.tree.children p
          ∧ path = Path.join (utf8 "s//./e/../") name ∧ name.endsWith (utf8 ".js") = true
          ∧ Denotes roundabout.disk p m name path)
      ∧ Confined (InDir roundabout.disk p (utf8 ".js")) {} none roundabout (utf8 "s//./e/../")
          (utf8 ".js") := by
  have hproper : roundabout.disk.tree.Proper := by decide
  have hback : roundabout.disk.takesBackNoLink (utf8 "s//./e/../") = true := by cbv
  have hsel : Selection.files roundabout.disk (utf8 "s//./e/../") (utf8 ".js")
      = .ok [utf8 "s/a.js", utf8 "s/b.js"] := by cbv
  exact ⟨hproper, hback, hsel, selected_denote_entries {} none hproper hback hsel⟩

/-- A directory next to a link to what is inside another one. Behind the link, a step up leads to
the other. -/
def besideLink : Session :=
  { disk :=
      { tree := ⟨[([utf8 "x"], .dir .newDir), ([utf8 "y", utf8 "x"], .dir .newDir),
          ([utf8 "a.js", utf8 "x"], .file .newFile (utf8 "import * as A from \"a\";\n")),
          ([utf8 "a.js"], .file .newFile (utf8 "import * as B from \"b\";\n")),
          ([utf8 "l"], .link (utf8 "x/y"))]⟩
        cwd := [] } }

/-- Where a step up takes back a link, the run goes to a file out of its directory and not to the
one inside. -/
theorem strays_from_directory :
    besideLink.disk.tree.Proper
    ∧ besideLink.disk.follow (utf8 "l/..") = .ok ([utf8 "x"], .dir .newDir)
    ∧ Selection.files besideLink.disk (utf8 "l/..") (utf8 ".js") = .ok [utf8 "a.js"]
    ∧ besideLink.disk.Reaches (utf8 "a.js") [utf8 "a.js"]
    ∧ ¬ InDir besideLink.disk [utf8 "x"] (utf8 ".js") [utf8 "a.js"]
    ∧ ¬ Confined (InDir besideLink.disk [utf8 "x"] (utf8 ".js")) {} none besideLink (utf8 "l/..")
        (utf8 ".js")
    ∧ (dir {} none besideLink (utf8 "l/..") (utf8 ".js")).2.2.disk.tree.node?
        [utf8 "a.js", utf8 "x"]
      = some (.file .newFile (utf8 "import * as A from \"a\";\n")) := by
  have hinside : ¬ InDir besideLink.disk [utf8 "x"] (utf8 ".js") [utf8 "a.js"] := by
    have hchildren : besideLink.disk.tree.children [utf8 "x"]
        = [(utf8 "a.js", .file .newFile (utf8 "import * as A from \"a\";\n")),
          (utf8 "y", .dir .newDir)] := by cbv
    have hentry :
        besideLink.disk.tree.EntryReaches [utf8 "x"] (utf8 "a.js") [utf8 "a.js", utf8 "x"] :=
      ⟨_, _, by cbv⟩
    rintro ⟨name, n, hmem, hext, hreach⟩
    rw [hchildren, List.mem_pair] at hmem
    rcases hmem with hmem | hmem
    · rw [(Prod.mk.inj hmem).1] at hreach
      exact absurd (hreach.unique hentry) (by decide)
    · rw [(Prod.mk.inj hmem).1] at hext
      exact absurd hext (by decide)
  have hbefore : besideLink.disk.tree.node? [utf8 "a.js"]
      = some (.file .newFile (utf8 "import * as B from \"b\";\n")) := by cbv
  have hafter : (dir {} none besideLink (utf8 "l/..") (utf8 ".js")).2.2.disk.tree.node?
      [utf8 "a.js"]
      = some (.file .newFile (utf8 "const B = Self.imports.b;\n")) := by cbv
  refine ⟨by decide, by cbv, by cbv, ⟨_, _, by cbv⟩, hinside, ?_, by cbv⟩
  intro hconfined
  have hsame := hconfined.writes [utf8 "a.js"] hinside
  rw [hbefore, hafter] at hsame
  exact absurd hsame (by decide)

end Run

end ImportLookup
