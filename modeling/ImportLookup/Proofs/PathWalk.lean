import ImportLookup.Proofs.TreeShape

/-!
# Where the names of a path lead

A walk is a recursion over names inside a recursion over links, and a link puts new
names in front of those that are left. `Leads` describes the same way as a relation:
names lead from one directory to another through so many links. It can be cut
between any two names and put together again, which the recursion cannot, and a walk
goes along it up to its end (`walk_of_leads`). Every walk that finds a directory goes
along such a way (`leads_of_walk`).
-/

namespace ImportLookup

namespace Tree

/-- A directory is there, and names in it may be looked up. -/
def Open (t : Tree) (p : Place) : Prop := ∃ m, t.node? p = some (.dir m) ∧ m.canSearch = true

/-- A name that leads further down, if it leads anywhere. -/
structure Descends (name : Bytes) : Prop where
  ne_dot : name ≠ Path.dot
  ne_dotDot : name ≠ Path.dotDot
  short : name.length ≤ nameLimit

/-- Where the target of a link at `p` counts from. -/
def linkStart (p : Place) (target : Bytes) : Place := if Path.isAbsolute target then [] else p

/-- The names lead from `p` to `q` through `k` links. All that is walked through is open. -/
inductive Leads (t : Tree) : Place → List Bytes → Nat → Place → Prop where
  | here {p : Place} : Leads t p [] 0 p
  | stay {p q : Place} {rest : List Bytes} {k : Nat} :
      t.Open p → Leads t p rest k q → Leads t p (Path.dot :: rest) k q
  | up {p q : Place} {rest : List Bytes} {k : Nat} :
      t.Open p → Leads t p.tail rest k q → Leads t p (Path.dotDot :: rest) k q
  | down {p q : Place} {name : Bytes} {rest : List Bytes} {k : Nat} {m : Mode} :
      t.Open p → Descends name → t.node? (name :: p) = some (.dir m) →
        Leads t (name :: p) rest k q →
      Leads t p (name :: rest) k q
  | link {p q : Place} {name target : Bytes} {rest : List Bytes} {k : Nat} :
      t.Open p → Descends name → t.node? (name :: p) = some (.link target) → target ≠ [] →
      Leads t (linkStart p target) (Path.names target ++ rest) k q →
        Leads t p (name :: rest) (k + 1) q

namespace Leads

variable {t : Tree} {p q r : Place} {front back : List Bytes} {i j k : Nat}

/-- **Ways can be put together.** -/
theorem append (h : Leads t p front i q) (h' : Leads t q back j r) :
    Leads t p (front ++ back) (i + j) r := by
  induction h with
  | here => rwa [Nat.zero_add]
  | stay hopen _ ih => exact stay hopen (ih h')
  | up hopen _ ih => exact up hopen (ih h')
  | down hopen hname hnode _ ih => exact down hopen hname hnode (ih h')
  | @link p q name target rest k hopen hname hnode htarget _ ih =>
      rw [List.cons_append, Nat.add_right_comm]
      refine link hopen hname hnode htarget ?_
      rw [← List.append_assoc]
      exact ih h'

/-- A way can be cut where it starts. -/
theorem split_nil {names : List Bytes} (hnames : [] ++ back = names) (h : Leads t p names k r) :
    ∃ q i j, Leads t p [] i q ∧ Leads t q back j r ∧ i + j = k := by
  rw [List.nil_append] at hnames
  exact ⟨p, 0, k, here, hnames ▸ h, Nat.zero_add k⟩

/-- **Ways can be cut between any two names.** -/
theorem split (h : Leads t p (front ++ back) k r) :
    ∃ q i j, Leads t p front i q ∧ Leads t q back j r ∧ i + j = k := by
  generalize hnames : front ++ back = names at h
  induction h generalizing front with
  | here =>
      obtain ⟨rfl, rfl⟩ := List.append_eq_nil_iff.mp hnames
      exact split_nil rfl here
  | stay hopen h ih =>
      cases front with
      | nil => exact split_nil hnames (stay hopen h)
      | cons n front =>
          rw [List.cons_append, List.cons.injEq] at hnames
          obtain ⟨q, i, j, hi, hj, hk⟩ := ih hnames.2
          exact ⟨q, i, j, hnames.1 ▸ stay hopen hi, hj, hk⟩
  | up hopen h ih =>
      cases front with
      | nil => exact split_nil hnames (up hopen h)
      | cons n front =>
          rw [List.cons_append, List.cons.injEq] at hnames
          obtain ⟨q, i, j, hi, hj, hk⟩ := ih hnames.2
          exact ⟨q, i, j, hnames.1 ▸ up hopen hi, hj, hk⟩
  | down hopen hname hnode h ih =>
      cases front with
      | nil => exact split_nil hnames (down hopen hname hnode h)
      | cons n front =>
          rw [List.cons_append, List.cons.injEq] at hnames
          obtain ⟨q, i, j, hi, hj, hk⟩ := ih hnames.2
          exact ⟨q, i, j, hnames.1 ▸ down hopen hname hnode hi, hj, hk⟩
  | @link p r name target rest k hopen hname hnode htarget h ih =>
      cases front with
      | nil => exact split_nil hnames (link hopen hname hnode htarget h)
      | cons n front =>
          rw [List.cons_append, List.cons.injEq] at hnames
          -- the names of the link stand before what is left of the first part
          have hrest : Path.names target ++ front ++ back = Path.names target ++ rest := by
            rw [List.append_assoc, hnames.2]
          obtain ⟨q, i, j, hi, hj, hk⟩ := ih hrest
          exact ⟨q, i + 1, j, hnames.1 ▸ link hopen hname hnode htarget hi, hj, by omega⟩

/-- All that a single name can do: stay, lead up, lead down, or lead through a link. -/
theorem single {name : Bytes} (h : Leads t p [name] k q) :
    t.Open p ∧ ((name = Path.dot ∧ k = 0 ∧ q = p) ∨ (name = Path.dotDot ∧ k = 0 ∧ q = p.tail)
      ∨ (Descends name ∧ k = 0 ∧ q = name :: p)
      ∨ (Descends name ∧ ∃ target, t.node? (name :: p) = some (.link target))) := by
  cases h with
  | stay hopen h =>
      cases h with
      | here => exact ⟨hopen, Or.inl ⟨rfl, rfl, rfl⟩⟩
  | up hopen h =>
      cases h with
      | here => exact ⟨hopen, Or.inr (Or.inl ⟨rfl, rfl, rfl⟩)⟩
  | down hopen hname _ h =>
      cases h with
      | here => exact ⟨hopen, Or.inr (Or.inr (Or.inl ⟨hname, rfl, rfl⟩))⟩
  | link hopen hname hnode _ _ => exact ⟨hopen, Or.inr (Or.inr (Or.inr ⟨hname, _, hnode⟩))⟩

end Leads

/-! ## Walking along -/

/-- How a walk goes on behind a link, when it may go through so many more. -/
def jump (t : Tree) (purpose : Purpose) : Nat → Place → List Bytes → Bool → Except Refusal Found
  | 0, _, _, _ => .error .tooManyLinks
  | links + 1, p, names, dirWanted => t.walk purpose links p names dirWanted

theorem walk_eq (t : Tree) (purpose : Purpose) (links : Nat) (p : Place) (names : List Bytes)
    (dirWanted : Bool) :
    t.walk purpose links p names dirWanted
      = t.walkNames (t.jump purpose links) purpose dirWanted p names := by
  cases links <;> rfl

section Steps

variable {t : Tree} {purpose : Purpose} {links : Nat} {p : Place} {name : Bytes} {rest : List Bytes}
  {dirWanted : Bool}

theorem walk_stay (hopen : t.Open p) :
    t.walk purpose links p (Path.dot :: rest) dirWanted
      = t.walk purpose links p rest dirWanted := by
  obtain ⟨m, hp, hm⟩ := hopen
  rw [walk_eq, walk_eq, walkNames, hp]
  dsimp only
  rw [hm, if_neg (by simp), if_pos rfl]

theorem walk_up (hopen : t.Open p) :
    t.walk purpose links p (Path.dotDot :: rest) dirWanted
      = t.walk purpose links p.tail rest dirWanted := by
  obtain ⟨m, hp, hm⟩ := hopen
  rw [walk_eq, walk_eq, walkNames, hp]
  dsimp only
  rw [hm, if_neg (by simp), if_neg (by decide), if_pos rfl]

/-- A name that leads down is looked up. -/
theorem walk_name (hopen : t.Open p) (hname : Descends name)
    (hrest : rest ≠ [] ∨ dirWanted = false) :
    t.walk purpose links p (name :: rest) dirWanted
      = match t.node? (name :: p) with
        | some (.link target) =>
          if rest.isEmpty && purpose = .name && !dirWanted then .ok (name :: p, some (.link target))
          else if target.isEmpty then .error .noEntry
          else t.jump purpose links (linkStart p target) (Path.names target ++ rest)
            (dirWanted || (rest.isEmpty && wantsDir target))
        | none => if rest.isEmpty then .ok (name :: p, none) else .error .noEntry
        | some _ => t.walk purpose links (name :: p) rest dirWanted := by
  obtain ⟨m, hp, hm⟩ := hopen
  have hmake : (rest.isEmpty && dirWanted && decide (purpose = .create)) = false := by
    rcases hrest with hrest | hwanted
    · rw [List.isEmpty_eq_false_iff.mpr hrest]
      rfl
    · rw [hwanted, Bool.and_false]
      rfl
  rw [walk_eq, walk_eq, walkNames, hp]
  dsimp only
  rw [hm, if_neg (by simp), if_neg hname.ne_dot, if_neg hname.ne_dotDot, hmake, if_neg (by simp),
    if_neg (Nat.not_lt.mpr hname.short)]
  rfl

theorem walk_down (hopen : t.Open p) (hname : Descends name) (hrest : rest ≠ []) {m : Mode}
    (hnode : t.node? (name :: p) = some (.dir m)) :
    t.walk purpose links p (name :: rest) dirWanted
      = t.walk purpose links (name :: p) rest dirWanted := by
  rw [walk_name hopen hname (Or.inl hrest), hnode]

theorem walk_link (hopen : t.Open p) (hname : Descends name) (hrest : rest ≠ []) {target : Bytes}
    (hnode : t.node? (name :: p) = some (.link target)) (htarget : target ≠ []) :
    t.walk purpose (links + 1) p (name :: rest) dirWanted
      = t.walk purpose links (linkStart p target) (Path.names target ++ rest) dirWanted := by
  have hempty : rest.isEmpty = false := List.isEmpty_eq_false_iff.mpr hrest
  have htarget' : target.isEmpty = false := List.isEmpty_eq_false_iff.mpr htarget
  rw [walk_name hopen hname (Or.inl hrest), hnode]
  dsimp only
  rw [hempty, htarget']
  simp [jump]

end Steps

/-- **A walk goes along a way**, and has as many links less to go through behind it. -/
theorem walk_of_leads {t : Tree} {p q : Place} {front : List Bytes} {k : Nat}
    (h : t.Leads p front k q) {rest : List Bytes} (hrest : rest ≠ []) (purpose : Purpose)
    (links : Nat) (dirWanted : Bool) :
    t.walk purpose (links + k) p (front ++ rest) dirWanted
      = t.walk purpose links q rest dirWanted := by
  have hmore : ∀ names : List Bytes, names ++ rest ≠ [] :=
    fun names => List.append_ne_nil_of_right_ne_nil names hrest
  induction h with
  | here => rfl
  | stay hopen _ ih => rw [List.cons_append, walk_stay hopen, ih]
  | up hopen _ ih => rw [List.cons_append, walk_up hopen, ih]
  | down hopen hname hnode _ ih => rw [List.cons_append, walk_down hopen hname (hmore _) hnode, ih]
  | link hopen hname hnode htarget _ ih =>
      rw [List.cons_append, ← Nat.add_assoc, walk_link hopen hname (hmore _) hnode htarget,
        ← List.append_assoc, ih]

/-- From a file, no names lead to a directory. -/
theorem walkNames_of_file {t : Tree} {jump : Place → List Bytes → Bool → Except Refusal Found}
    {purpose : Purpose} {dirWanted : Bool} {p q : Place} {names : List Bytes}
    {m m' : Mode} {c : Bytes} (hp : t.node? p = some (.file m c)) :
    t.walkNames jump purpose dirWanted p names ≠ .ok (q, some (.dir m')) := by
  cases names with
  | nil =>
      rw [walkNames, hp]
      cases dirWanted <;> simp
  | cons name rest =>
      rw [walkNames, hp]
      simp

theorem leads_of_walkNames {t : Tree} {jump : Place → List Bytes → Bool → Except Refusal Found}
    {links : Nat}
    (hjump : ∀ {p names dirWanted q m}, jump p names dirWanted = .ok (q, some (.dir m)) →
      ∃ k, k + 1 ≤ links ∧ t.Leads p names k q)
    {dirWanted : Bool} {p q : Place} {names : List Bytes} {m : Mode}
    (h : t.walkNames jump .use dirWanted p names = .ok (q, some (.dir m))) :
    ∃ k, k ≤ links ∧ t.Leads p names k q := by
  induction names generalizing p with
  | nil =>
      rw [walkNames] at h
      split at h
      · obtain ⟨rfl, _⟩ := Prod.mk.inj (Except.ok.inj h)
        exact ⟨0, Nat.zero_le _, Leads.here⟩
      · rename_i hnodir
        split at h
        · cases h
        · obtain ⟨rfl, hfound⟩ := Prod.mk.inj (Except.ok.inj h)
          exact absurd hfound (hnodir m)
  | cons name rest ih =>
      rw [walkNames] at h
      cases hp : t.node? p with
      | none => rw [hp] at h; cases h
      | some n =>
          rw [hp] at h
          cases n with
          | file m' c => cases h
          | link target => cases h
          | dir m' =>
              dsimp only at h
              by_cases hsearch : (!m'.canSearch) = true
              · rw [if_pos hsearch] at h; cases h
              rw [if_neg hsearch] at h
              have hopen : t.Open p := ⟨m', hp, by simpa using hsearch⟩
              by_cases hdot : name = Path.dot
              · rw [if_pos hdot] at h
                obtain ⟨k, hk, hleads⟩ := ih h
                exact ⟨k, hk, hdot ▸ Leads.stay hopen hleads⟩
              rw [if_neg hdot] at h
              by_cases hup : name = Path.dotDot
              · rw [if_pos hup] at h
                obtain ⟨k, hk, hleads⟩ := ih h
                exact ⟨k, hk, hup ▸ Leads.up hopen hleads⟩
              rw [if_neg hup, if_neg (by simp)] at h
              by_cases hlong : name.length > nameLimit
              · rw [if_pos hlong] at h; cases h
              rw [if_neg hlong] at h
              have hname : Descends name := ⟨hdot, hup, Nat.not_lt.mp hlong⟩
              cases hnode : t.node? (name :: p) with
              | none =>
                  rw [hnode] at h
                  dsimp only at h
                  split at h <;> cases h
              | some n =>
                  rw [hnode] at h
                  cases n with
                  | dir m'' =>
                      obtain ⟨k, hk, hleads⟩ := ih h
                      exact ⟨k, hk, Leads.down hopen hname hnode hleads⟩
                  | file m'' c => exact absurd h (walkNames_of_file hnode)
                  | link target =>
                      -- a link at the end is gone through too, since the walk is to use what is
                      -- there
                      dsimp only at h
                      rw [if_neg (by simp)] at h
                      by_cases hempty : target.isEmpty = true
                      · rw [if_pos hempty] at h; cases h
                      rw [if_neg hempty] at h
                      obtain ⟨k, hk, hleads⟩ := hjump h
                      exact ⟨k + 1, hk, Leads.link hopen hname hnode (by simpa using hempty) hleads⟩

/-- **A walk that finds a directory goes along a way to it.** -/
theorem leads_of_walk {t : Tree} {links : Nat} {p q : Place} {names : List Bytes}
    {dirWanted : Bool} {m : Mode}
    (h : t.walk .use links p names dirWanted = .ok (q, some (.dir m))) :
    ∃ k, k ≤ links ∧ t.Leads p names k q := by
  induction links generalizing p q names dirWanted m with
  | zero => exact leads_of_walkNames (fun h => absurd h (by simp)) h
  | succ links ih =>
      refine leads_of_walkNames (fun hjump => ?_) h
      obtain ⟨k, hk, hleads⟩ := ih hjump
      exact ⟨k, Nat.succ_le_succ hk, hleads⟩

/-! ## More links to go through -/

/-- What comes of a walk is settled before it gets to a link, or it is what comes of going through
the first one. -/
inductive JumpsOnce :
    ((Place → List Bytes → Bool → Except Refusal Found) → Except Refusal Found) → Prop where
  | never (found : Except Refusal Found) : JumpsOnce fun _ => found
  | once (p : Place) (names : List Bytes) (dirWanted : Bool) :
      JumpsOnce fun jump => jump p names dirWanted

theorem jumpsOnce_walkNames (t : Tree) (purpose : Purpose) (dirWanted : Bool) (p : Place)
    (names : List Bytes) :
    JumpsOnce fun jump => t.walkNames jump purpose dirWanted p names := by
  induction names generalizing p with
  | nil =>
      simp only [walkNames]
      exact .never _
  | cons name rest ih =>
      simp only [walkNames]
      cases t.node? p with
      | none => exact .never _
      | some n =>
          cases n with
          | file m c => exact .never _
          | link target => exact .never _
          | dir m =>
              dsimp only
              by_cases hsearch : (!m.canSearch) = true
              · simp only [if_pos hsearch]; exact .never _
              simp only [if_neg hsearch]
              by_cases hdot : name = Path.dot
              · simp only [if_pos hdot]; exact ih p
              simp only [if_neg hdot]
              by_cases hup : name = Path.dotDot
              · simp only [if_pos hup]; exact ih p.tail
              simp only [if_neg hup]
              by_cases hmake : (rest.isEmpty && dirWanted && decide (purpose = .create)) = true
              · simp only [if_pos hmake]; exact .never _
              simp only [if_neg hmake]
              by_cases hlong : name.length > nameLimit
              · simp only [if_pos hlong]; exact .never _
              simp only [if_neg hlong]
              cases t.node? (name :: p) with
              | none => exact .never _
              | some n =>
                  cases n with
                  | dir m' => exact ih (name :: p)
                  | file m' c => exact ih (name :: p)
                  | link target =>
                      dsimp only
                      by_cases hname : (rest.isEmpty && decide (purpose = .name) && !dirWanted)
                        = true
                      · simp only [if_pos hname]; exact .never _
                      simp only [if_neg hname]
                      by_cases hempty : target.isEmpty = true
                      · simp only [if_pos hempty]; exact .never _
                      -- only here does the walk hand on what is left
                      simp only [if_neg hempty]
                      exact .once _ _ _

theorem JumpsOnce.mono
    {f : (Place → List Bytes → Bool → Except Refusal Found) → Except Refusal Found}
    (h : JumpsOnce f) {jump jump' : Place → List Bytes → Bool → Except Refusal Found}
    {found : Found}
    (hjump : ∀ {p names dirWanted}, jump p names dirWanted = .ok found →
      jump' p names dirWanted = .ok found)
    (hfound : f jump = .ok found) : f jump' = .ok found := by
  cases h with
  | never _ => exact hfound
  | once _ _ _ => exact hjump hfound

/-- **A walk that comes to its end does so with more links to go through.** -/
theorem walk_mono {t : Tree} {purpose : Purpose} {links more : Nat} (hle : links ≤ more) {p : Place}
    {names : List Bytes} {dirWanted : Bool} {found : Found}
    (h : t.walk purpose links p names dirWanted = .ok found) :
    t.walk purpose more p names dirWanted = .ok found := by
  -- both walks go the same way up to the first link, and from there on with one link less
  induction links generalizing more p names dirWanted with
  | zero =>
      rw [walk_eq] at h ⊢
      refine (t.jumpsOnce_walkNames purpose dirWanted p names).mono (fun hjump => ?_) h
      exact nomatch (show Except.error Refusal.tooManyLinks = Except.ok found from hjump)
  | succ links ih =>
      obtain ⟨more, rfl⟩ := Nat.exists_eq_add_one_of_ne_zero (show more ≠ 0 by omega)
      rw [walk_eq] at h ⊢
      exact (t.jumpsOnce_walkNames purpose dirWanted p names).mono
        (fun hjump => ih (Nat.le_of_succ_le_succ hle) hjump) h

end Tree

end ImportLookup
