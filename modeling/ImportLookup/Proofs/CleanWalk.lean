import ImportLookup.Proofs.CleanPath
import ImportLookup.Proofs.DiskShape
import ImportLookup.Proofs.PathWalk

/-!
# Walking a clean path

Cleaning a path drops every name that a step up follows, together with the step. The
text alone cannot tell whether that is right. Behind the name of a directory, a step
up leads back to where the name was looked up. Behind the name of a link it leads to
whatever contains the target of the link, and cleaning has gone wrong.

So a path and its clean form lead to the same place as long as no step up takes back
the name of a link (`leads_kept`). For `join` this means that the path it makes of a
directory and a name leads to what is under this name in the directory (`locate_join`).
-/

namespace ImportLookup

/-- A name that something in a directory can have. -/
structure EntryName (name : Bytes) : Prop where
  isName : Path.IsName name
  nonzero : 0 ∉ name
  descends : Tree.Descends name

instance (name : Bytes) : Decidable (EntryName name) :=
  decidable_of_iff ((name ≠ [] ∧ Path.slash ∉ name) ∧ 0 ∉ name ∧ name ≠ Path.dot
    ∧ name ≠ Path.dotDot
      ∧ name.length ≤ Tree.nameLimit)
    ⟨fun ⟨hname, hzero, hdot, hup, hshort⟩ => ⟨hname, hzero, hdot, hup, hshort⟩,
      fun h => ⟨h.isName, h.nonzero, h.descends.ne_dot, h.descends.ne_dotDot, h.descends.short⟩⟩

namespace Path

/-- What cleaning keeps of the names of a path, the last on top. -/
def kept (path : Bytes) : List Bytes := (names path).foldl (push (isAbsolute path)) []

theorem tidy_kept (path : Bytes) : Tidy (isAbsolute path) (kept path) :=
  tidy_foldl _ Tidy.nil fun _ hn => isName_of_mem_names hn

/-- A push adds no name but a step up or the one that is pushed. -/
theorem mem_push {rooted : Bool} {stack : List Bytes} {name n : Bytes}
    (h : n ∈ push rooted stack name) :
    n ∈ stack ∨ n = name ∨ n = dotDot := by
  unfold push at h
  split at h
  · exact Or.inl h
  split at h
  · split at h
    · split at h
      · exact nomatch h
      · exact Or.inr (Or.inr (List.mem_singleton.mp h))
    · split at h
      · rcases List.mem_cons.mp h with h | h
        · exact Or.inr (Or.inr h)
        · exact Or.inl h
      · exact Or.inl (List.mem_cons_of_mem _ h)
  · rcases List.mem_cons.mp h with h | h
    · exact Or.inr (Or.inl h)
    · exact Or.inl h

theorem mem_foldl_push {rooted : Bool} {list stack : List Bytes} {n : Bytes}
    (h : n ∈ list.foldl (push rooted) stack) : n ∈ stack ∨ n ∈ list ∨ n = dotDot := by
  induction list generalizing stack with
  | nil => exact Or.inl h
  | cons name list ih =>
      rw [List.foldl_cons] at h
      rcases ih h with h | h | h
      · rcases mem_push h with h | h | h
        · exact Or.inl h
        · exact Or.inr (Or.inl (h ▸ List.mem_cons_self))
        · exact Or.inr (Or.inr h)
      · exact Or.inr (Or.inl (List.mem_cons_of_mem _ h))
      · exact Or.inr (Or.inr h)

/-- A path is made of the names on the stack and of slashes. -/
theorem mem_ofStack {rooted : Bool} {top : Bytes} {stack : List Bytes} {b : UInt8}
    (h : b ∈ ofStack rooted (top :: stack)) : b = slash ∨ ∃ n ∈ top :: stack, b ∈ n := by
  have hjoined : b ∈ Bytes.joinWith [slash] (top :: stack).reverse →
      b = slash ∨ ∃ n ∈ top :: stack, b ∈ n := by
    intro hb
    refine (Bytes.mem_joinWith hb).imp List.mem_singleton.mp ?_
    rintro ⟨n, hn, hbn⟩
    exact ⟨n, List.mem_reverse.mp hn, hbn⟩
  unfold ofStack at h
  split at h
  · rcases List.mem_cons.mp h with h | h
    · exact Or.inl h
    · exact hjoined h
  · exact hjoined h

/-! ## The path to an entry -/

section Join

variable {dir name : Bytes}

theorem tidy_entry (hname : EntryName name) : Tidy (isAbsolute dir) (name :: kept dir) :=
  Tidy.name hname.descends.ne_dot hname.descends.ne_dotDot hname.isName (tidy_kept dir)

theorem names_of_isName (h : IsName name) : names name = [name] := by
  unfold names
  rw [Bytes.splitOn_of_not_mem h.2, List.filter_cons_of_pos (by simpa using h.1), List.filter_nil]

theorem names_append (dir path : Bytes) :
    names (dir ++ slash :: path) = names dir ++ names path := by
  unfold names
  rw [Bytes.splitOn_append_sep, List.filter_append]

theorem join_eq_ofStack (hdir : dir ≠ []) (hname : EntryName name) :
    join dir name = ofStack (isAbsolute dir) (name :: kept dir) := by
  have habs : isAbsolute (dir ++ slash :: name) = isAbsolute dir := by
    cases dir with
    | nil => exact absurd rfl hdir
    | cons c cs => rfl
  have hpush : push (isAbsolute dir) (kept dir) name = name :: kept dir := by
    unfold push
    rw [if_neg hname.descends.ne_dot, if_neg hname.descends.ne_dotDot]
  unfold join
  rw [List.isEmpty_eq_false_iff.mpr hdir, if_neg (by simp), clean_eq_ofStack, habs, names_append,
    names_of_isName hname.isName, List.foldl_append, List.foldl_cons, List.foldl_nil]
  show ofStack (isAbsolute dir) (push (isAbsolute dir) (kept dir) name) = _
  rw [hpush]

theorem isAbsolute_join (hdir : dir ≠ []) (hname : EntryName name) :
    isAbsolute (join dir name) = isAbsolute dir := by
  rw [join_eq_ofStack hdir hname, isAbsolute_ofStack (tidy_entry hname)]

theorem names_join (hdir : dir ≠ []) (hname : EntryName name) :
    names (join dir name) = (kept dir).reverse ++ [name] := by
  rw [join_eq_ofStack hdir hname, names_ofStack (tidy_entry hname) (Or.inr (by simp)),
    List.reverse_cons]

theorem join_ne_nil (hdir : dir ≠ []) (hname : EntryName name) : join dir name ≠ [] := by
  intro hnil
  have hnames := names_join hdir hname
  rw [hnil] at hnames
  exact absurd hnames (by simp [names, Bytes.splitOn])

theorem base_join (hdir : dir ≠ []) (hname : EntryName name) : base (join dir name) = name := by
  unfold base
  rw [List.isEmpty_eq_false_iff.mpr (join_ne_nil hdir hname), if_neg (by simp),
    names_join hdir hname, List.getLast?_concat]

/-- Two entries of a directory have two paths. -/
theorem join_inj {name' : Bytes} (hdir : dir ≠ []) (hname : EntryName name)
    (hname' : EntryName name') (h : join dir name = join dir name') : name = name' := by
  rw [← base_join hdir hname, h, base_join hdir hname']

/-- The path to an entry ends with its name. -/
theorem join_eq_append (hdir : dir ≠ []) (hname : EntryName name) :
    ∃ front, join dir name = front ++ name := by
  obtain ⟨front, hfront⟩ := Bytes.joinWith_concat [slash] (kept dir).reverse name
  rw [join_eq_ofStack hdir hname]
  unfold ofStack
  rw [List.reverse_cons, hfront]
  split
  · exact ⟨slash :: front, rfl⟩
  · exact ⟨front, rfl⟩

theorem wantsDir_join (hdir : dir ≠ []) (hname : EntryName name) :
    Tree.wantsDir (join dir name) = false := by
  obtain ⟨front, hfront⟩ := join_eq_append hdir hname
  obtain ⟨last, hlast⟩ : ∃ last, name.getLast? = some last :=
    ⟨_, List.getLast?_eq_some_getLast hname.isName.1⟩
  unfold Tree.wantsDir
  rw [hfront, List.getLast?_append, hlast, Option.some_or, beq_eq_false_iff_ne]
  intro heq
  exact hname.isName.2 (List.mem_of_getLast? (hlast.trans heq))

theorem zero_not_mem_join (hdir : dir ≠ []) (hzero : 0 ∉ dir) (hname : EntryName name) :
    0 ∉ join dir name := by
  intro hmem
  rw [join_eq_ofStack hdir hname] at hmem
  obtain ⟨n, hn, hz⟩ := (mem_ofStack hmem).resolve_left (by decide)
  rcases List.mem_cons.mp hn with rfl | hn
  · exact hname.nonzero hz
  rcases mem_foldl_push hn with h | h | rfl
  · exact nomatch h
  · exact hzero (Bytes.mem_of_mem_splitOn (List.mem_filter.mp h).1 hz)
  · exact absurd hz (by decide)

end Join

end Path

/-! ## Steps up that are taken back -/

namespace Tree

/-- Whether the names lead to a link, which is not itself gone through. -/
def endsAtLink (t : Tree) (start : Place) (names : List Bytes) : Bool :=
  match t.walk .name linkLimit start names false with
  | .ok (_, some (.link _)) => true
  | _ => false

/-- Whether no step up among the names takes back the name of a link. What cleaning has kept of the
names before them is on the stack. -/
def takesBackNoLink (t : Tree) (start : Place) (rooted : Bool) : List Bytes → List Bytes → Bool
  | _, [] => true
  | stack, name :: rest =>
    !(name == Path.dotDot && t.endsAtLink start stack.reverse)
      && t.takesBackNoLink start rooted (Path.push rooted stack name) rest

/-- Names without a step up among them take nothing back. -/
theorem takesBackNoLink_of_no_up {names : List Bytes} (h : Path.dotDot ∉ names) (t : Tree)
    (start : Place) (rooted : Bool) (stack : List Bytes) :
    t.takesBackNoLink start rooted stack names = true := by
  induction names generalizing stack with
  | nil => rfl
  | cons name rest ih =>
      have hname : (name == Path.dotDot) = false :=
        beq_eq_false_iff_ne.mpr fun heq => h (heq ▸ List.mem_cons_self)
      rw [takesBackNoLink, hname, Bool.false_and, Bool.not_false, Bool.true_and]
      exact ih (fun hmem => h (List.mem_cons_of_mem _ hmem)) _

theorem endsAtLink_of_leads {t : Tree} {start p : Place} {front : List Bytes} {k : Nat}
    (h : t.Leads start front k p) (hk : k ≤ linkLimit) (hopen : t.Open p) {name target : Bytes}
    (hname : Descends name) (hnode : t.node? (name :: p) = some (.link target)) :
    t.endsAtLink start (front ++ [name]) = true := by
  have hlimit : linkLimit = linkLimit - k + k := (Nat.sub_add_cancel hk).symm
  unfold endsAtLink
  rw [hlimit, walk_of_leads h (List.cons_ne_nil _ _), walk_name hopen hname (Or.inr rfl), hnode]
  rfl

/-- **One push keeps to the way**, unless it takes back the name of a link. -/
theorem leads_push {t : Tree} {start q q' : Place} {rooted : Bool} {stack : List Bytes}
    {name : Bytes} {i j : Nat} (hroot : rooted = true → start = []) (htidy : Path.Tidy rooted stack)
    (hstack : t.Leads start stack.reverse i q) (hlimit : i ≤ linkLimit)
    (hname : t.Leads q [name] j q')
    (hback : name = Path.dotDot → t.endsAtLink start stack.reverse = false) :
    ∃ k, k ≤ i + j ∧ t.Leads start (Path.push rooted stack name).reverse k q' := by
  -- wherever the name goes on top, the two ways are put together
  have hpushed : ∃ k, k ≤ i + j ∧ t.Leads start (name :: stack).reverse k q' := by
    rw [List.reverse_cons]
    exact ⟨i + j, Nat.le_refl _, hstack.append hname⟩
  obtain ⟨_, hcases⟩ := hname.single
  unfold Path.push
  by_cases hdot : name = Path.dot
  · rw [if_pos hdot]
    rcases hcases with ⟨_, rfl, rfl⟩ | ⟨hup, _⟩ | ⟨hdesc, _⟩ | ⟨hdesc, _⟩
    · exact ⟨i, Nat.le_refl _, hstack⟩
    · exact absurd (hdot.symm.trans hup) (by decide)
    · exact absurd hdot hdesc.ne_dot
    · exact absurd hdot hdesc.ne_dot
  rw [if_neg hdot]
  by_cases hup : name = Path.dotDot
  · rw [if_pos hup]
    have hq' : q' = q.tail := by
      rcases hcases with ⟨h, _⟩ | ⟨_, _, h⟩ | ⟨hdesc, _⟩ | ⟨hdesc, _⟩
      · exact absurd h hdot
      · exact h
      · exact absurd hup hdesc.ne_dotDot
      · exact absurd hup hdesc.ne_dotDot
    cases htidy with
    | nil =>
        cases hstack with
        | here =>
            cases rooted with
            | true =>
                -- above the top there is nothing
                rw [hq', hroot rfl]
                exact ⟨0, Nat.zero_le _, Leads.here⟩
            | false => exact hup ▸ hpushed
    | up _ _ _ =>
        dsimp only
        rw [if_pos rfl]
        exact hup ▸ hpushed
    | @name last stack hldot hlup hlname _ =>
        dsimp only
        rw [if_neg hlup]
        rw [List.reverse_cons] at hstack hback
        obtain ⟨q₁, i₁, i₂, h₁, h₂, hi⟩ := hstack.split
        obtain ⟨hopen, hlast⟩ := h₂.single
        rcases hlast with ⟨h, _⟩ | ⟨h, _⟩ | ⟨_, _, hq⟩ | ⟨hdesc, target, hnode⟩
        · exact absurd h hldot
        · exact absurd h hlup
        · -- the step up leads back to where the name was looked up
          rw [hq', hq]
          exact ⟨i₁, by omega, h₁⟩
        · have hlink := endsAtLink_of_leads h₁ (by omega) hopen hdesc hnode
          rw [hback hup] at hlink
          exact nomatch hlink
  · rw [if_neg hup]
    exact hpushed

theorem leads_foldl {t : Tree} {start : Place} {rooted : Bool} (hroot : rooted = true → start = [])
    {names stack : List Bytes} {q p : Place} {i j : Nat} (hnames : ∀ name ∈ names, Path.IsName name)
    (htidy : Path.Tidy rooted stack) (hstack : t.Leads start stack.reverse i q)
    (hleads : t.Leads q names j p) (hlimit : i + j ≤ linkLimit)
    (hback : t.takesBackNoLink start rooted stack names = true) :
    ∃ k, k ≤ i + j ∧ t.Leads start (names.foldl (Path.push rooted) stack).reverse k p := by
  -- the stack leads to where the names left over count from
  induction names generalizing stack q i j with
  | nil =>
      cases hleads with
      | here => exact ⟨i, Nat.le_refl _, hstack⟩
  | cons name rest ih =>
      rw [takesBackNoLink, Bool.and_eq_true] at hback
      obtain ⟨hnow, hlater⟩ := hback
      have hnolink : name = Path.dotDot → t.endsAtLink start stack.reverse = false := by
        intro hup
        simpa [hup] using hnow
      rw [← List.singleton_append] at hleads
      obtain ⟨q', j₁, j₂, hname, hrest, hj⟩ := hleads.split
      obtain ⟨k, hk, hpush⟩ := leads_push hroot htidy hstack (by omega) hname hnolink
      have htidy' := Path.tidy_push htidy (hnames name List.mem_cons_self)
      obtain ⟨k', hk', hend⟩ :=
        ih (fun n hn => hnames n (List.mem_cons_of_mem _ hn)) htidy' hpush hrest (by omega) hlater
      exact ⟨k', by omega, hend⟩

/-- What a walk along a path needs of its text. -/
theorem walk_of_locate {t : Tree} {cwd : Place} {path : Bytes} {purpose : Purpose} {found : Found}
    (h : t.locate cwd path purpose = .ok found) :
    0 ∉ path ∧ path ≠ []
      ∧ t.walk purpose linkLimit (if Path.isAbsolute path then [] else cwd) (Path.names path)
          (wantsDir path)
          = .ok found := by
  unfold locate at h
  split at h
  · exact nomatch h
  rename_i hzero
  split at h
  · exact nomatch h
  rename_i hempty
  split at h
  · exact nomatch h
  exact ⟨by simpa using hzero, by simpa using hempty, h⟩

theorem locate_eq_walk (t : Tree) (cwd : Place) {path : Bytes} (hzero : 0 ∉ path)
    (hempty : path ≠ []) (purpose : Purpose) :
    t.locate cwd path purpose
      = if path.length > pathLimit then .error .nameTooLong
        else t.walk purpose linkLimit (if Path.isAbsolute path then [] else cwd) (Path.names path)
          (wantsDir path) := by
  unfold locate
  rw [if_neg (by simpa using hzero), if_neg (by simpa using hempty)]

end Tree

namespace Disk

/-- Where a path counts from. -/
def origin (d : Disk) (path : Bytes) : Place := if Path.isAbsolute path then [] else d.cwd

/-- Whether no step up in a path takes back the name of a link. -/
def takesBackNoLink (d : Disk) (path : Bytes) : Bool :=
  d.tree.takesBackNoLink (d.origin path) (Path.isAbsolute path) [] (Path.names path)

/-- **What cleaning keeps of a path leads where the path leads.** -/
theorem leads_kept {d : Disk} {path : Bytes} (hback : d.takesBackNoLink path = true)
    {p : Place} {m : Mode} (h : d.follow path = .ok (p, .dir m)) :
    ∃ k, k ≤ Tree.linkLimit ∧ d.tree.Leads (d.origin path) (Path.kept path).reverse k p := by
  obtain ⟨_, _, hwalk⟩ := Tree.walk_of_locate (locate_of_follow h)
  obtain ⟨k, hk, hleads⟩ := Tree.leads_of_walk hwalk
  have hroot : Path.isAbsolute path = true → d.origin path = [] := fun habs => if_pos habs
  obtain ⟨k', hk', hkept⟩ :=
    Tree.leads_foldl hroot (fun _ hn => Path.isName_of_mem_names hn) Path.Tidy.nil
    Tree.Leads.here hleads (by omega) hback
  exact ⟨k', by omega, hkept⟩

/-- **The path to an entry of a directory leads to what is under its name there.** -/
theorem locate_join {d : Disk} {dir : Bytes} (hback : d.takesBackNoLink dir = true)
    {p : Place} {m : Mode} (h : d.follow dir = .ok (p, .dir m)) {name : Bytes}
    (hname : EntryName name) :
    ∃ links, links ≤ Tree.linkLimit ∧ d.tree.locate d.cwd (Path.join dir name) .use
      = if (Path.join dir name).length > Tree.pathLimit then .error .nameTooLong
        else d.tree.walk .use links p [name] false := by
  obtain ⟨hzero, hdir, _⟩ := Tree.walk_of_locate (locate_of_follow h)
  obtain ⟨k, hk, hleads⟩ := leads_kept hback h
  -- on the way to the directory `k` links have been used up
  have hwalk := Tree.walk_of_leads hleads (List.cons_ne_nil name []) .use (Tree.linkLimit - k) false
  rw [Nat.sub_add_cancel hk] at hwalk
  refine ⟨Tree.linkLimit - k, Nat.sub_le _ _, ?_⟩
  rw [Tree.locate_eq_walk _ _ (Path.zero_not_mem_join hdir hzero hname)
    (Path.join_ne_nil hdir hname), Path.isAbsolute_join hdir hname, Path.names_join hdir hname,
    Path.wantsDir_join hdir hname, ← hwalk]
  rfl

end Disk

end ImportLookup
