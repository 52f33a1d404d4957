import Mathlib
import ImportLookup.Proofs.JsonReading

/-!
# A look-up, token by token

A search for a key is one flat loop. It does not follow the nesting of the text but
counts: how many brackets are open inside the object, and how many keys and values
have begun in it. Whether to go on is decided by `more`, which looks at one byte only
and may see a comma, a colon or the wrong bracket there. So it is not plain that the
counts are right in a text that is broken.

The code counts brackets in natural numbers, where going below zero would not show.
The look-up is therefore run here as a machine (`Stage.step`) that takes a token at a
step and has an integer for its depth, which nothing keeps from becoming negative. The
reader knows what is really open, and the invariant (`Inside`) says that the counts
agree with it: the object that is searched is still open, with as many keys and values
begun in it as were counted, and as many brackets are open inside it as the depth
says. A token that is read keeps this, since a bracket closes only what was opened
last and the loop does not go on to one at depth zero. The machine is tied to the code
by `outcome`, which every step leaves as it is.
-/

namespace ImportLookup

namespace Json

namespace KeyPath

/-! ## The look-up as a machine -/

/-- A search at the head of its loop. The depth may be any integer here. -/
structure Scan where
  /-- What was open around the object when its bracket was read. -/
  outer : List Frame
  depth : Int
  count : Nat
  reader : Reader

/-- How far a look-up has got. -/
inductive Stage where
  /-- Before an object that is to be searched, or before the value if there is no key left. -/
  | landing (seen : Bytes) (keys : List Bytes) (reader : Reader)
  /-- In the object that is searched for a key. -/
  | seeking (seen key : Bytes) (keys : List Bytes) (scan : Scan)
  | done (result : Except Failure Scalar)

/-- What a token does to a search, unless it is the key. -/
def Scan.take? (key : Bytes) (s : Scan) (r : Reader) : Token → Option Scan
  | .openObject | .openArray =>
    some { s with depth := s.depth + 1, count := if s.depth = 0 then s.count + 1 else s.count,
                  reader := r }
  | .closeObject | .closeArray => some { s with depth := s.depth - 1, reader := r }
  | .scalar v =>
    if 0 < s.depth then some { s with reader := r }
    else if v = .string key ∧ (s.count + 1) % 2 = 1 then none
    else some { s with count := s.count + 1, reader := r }

namespace Stage

/-- A look-up that is to begin. -/
def start (path text : Bytes) : Stage :=
  match keys? path with
  | none => done (.error (.malformedKeyPath path))
  | some keys => landing KeyPath.start keys (Reader.ofText text)

/-- The stage after the next token. -/
def step (canceled : Bool) : Stage → Stage
  | landing seen [] r =>
    done (match r.next? with
      | none => .error (.unreadableValue seen .malformedJson)
      | some (.scalar s, _) => .ok s
      | some _ => .error (.notScalar seen))
  | landing seen (key :: keys) r =>
    match r.next? with
    | none => done (.error (.unreadableObject seen .malformedJson))
    | some (.openObject, r) => seeking (seen ++ key) key keys ⟨r.frames.tail, 0, 0, r⟩
    | some _ => done (.error (.notObject seen))
  | seeking seen key keys s =>
    if 0 < s.depth || s.reader.more then
      if canceled then done (.error (.gaveUp seen .canceled))
      else match s.reader.next? with
        | none => done (.error (.unreadableObject seen .malformedJson))
        | some (t, r) =>
          match s.take? key r t with
          | some s => seeking seen key keys s
          | none => landing seen keys r
    else done (.error (.keyNotFound seen))
  | done result => done result

/-- The text that is left. -/
def left : Stage → Nat
  | landing _ _ r => r.rest.length
  | seeking _ _ _ s => s.reader.rest.length
  | done _ => 0

/-- What the code makes of the rest. -/
def outcome (canceled : Bool) : Stage → Except Failure Scalar
  | landing seen keys r => descend canceled seen keys r
  | seeking seen key keys s =>
    match searchMembers canceled seen key s.depth.toNat s.count s.reader with
    | .ok r => descend canceled seen keys r
    | .error e => .error e
  | done result => result

end Stage

/-! ## What is open -/

/-- An object that is open, with `count` keys and values begun in it, `depth` brackets open inside
it and `outer` open around it. -/
def Inside (outer : List Frame) (depth : Int) (count : Nat) (frames : List Frame) : Prop :=
  ∃ inner, frames = inner ++ .object count :: outer ∧ depth = inner.length

namespace Inside

variable {outer frames : List Frame} {depth : Int} {count : Nat} {frame : Frame}

theorem entered (outer : List Frame) : Inside outer 0 0 (.object 0 :: outer) := ⟨[], rfl, rfl⟩

/-- A key or value begins: in the object itself if nothing is open inside it. -/
theorem bumped (h : Inside outer depth count frames) :
    Inside outer depth (if depth = 0 then count + 1 else count) (Reader.bumped frames) := by
  obtain ⟨inner, rfl, rfl⟩ := h
  cases inner with
  | nil => exact ⟨[], rfl, rfl⟩
  | cons f inner =>
      have hpos : ((f :: inner).length : Int) ≠ 0 := by
        rw [List.length_cons]
        omega
      rw [if_neg hpos]
      exact ⟨f.bump :: inner, rfl, rfl⟩

theorem push (h : Inside outer depth count frames) :
    Inside outer (depth + 1) count (frame :: frames) := by
  obtain ⟨inner, rfl, rfl⟩ := h
  exact ⟨frame :: inner, rfl, by rw [List.length_cons]; omega⟩

theorem pop (h : Inside outer depth count (frame :: frames)) (hdepth : 0 < depth) :
    Inside outer (depth - 1) count frames := by
  obtain ⟨inner, hframes, rfl⟩ := h
  cases inner with
  | nil => exact absurd hdepth (by simp)
  | cons f inner =>
      exact ⟨inner, (List.cons.inj hframes).2, by rw [List.length_cons]; omega⟩

end Inside

/-- What a token does to what is open. -/
theorem frames_of_next {r r' : Reader} {t : Token} (h : r.next? = some (t, r')) :
    match t with
    | .openObject | .openArray => ∃ frame, r'.frames = frame :: Reader.bumped r.frames
    | .closeObject | .closeArray => ∃ frame, r.frames = frame :: r'.frames
    | .scalar _ => r'.frames = Reader.bumped r.frames := by
  cases Reader.takes_of_next h with
  | openObject _ _ _ => exact ⟨_, rfl⟩
  | openArray _ _ _ => exact ⟨_, rfl⟩
  | closeObject hframes _ _ _ => exact ⟨_, hframes⟩
  | closeArray hframes _ _ => exact ⟨_, hframes⟩
  | scalar _ _ _ _ => rfl

/-! ## Where a search is -/

namespace Scan

/-- The search is where it takes itself to be. -/
def InPlace (s : Scan) : Prop := Inside s.outer s.depth s.count s.reader.frames

variable {key : Bytes} {s s' : Scan} {t : Token} {r : Reader}

theorem take?_reader (h : s.take? key r t = some s') : s'.reader = r := by
  unfold take? at h
  split at h
  · rw [← Option.some.inj h]
  · rw [← Option.some.inj h]
  · rw [← Option.some.inj h]
  · rw [← Option.some.inj h]
  · split at h
    · rw [← Option.some.inj h]
    split at h
    · cases h
    · rw [← Option.some.inj h]

/-- **A token leaves a search in its place**, as long as no bracket is closed at depth zero. -/
theorem InPlace.take (h : s.InPlace) (hnext : s.reader.next? = some (t, r))
    (hgo : 0 < s.depth ∨ t.isClosing = false) (htake : s.take? key r t = some s') : s'.InPlace := by
  have hframes := frames_of_next hnext
  have hbumped := Inside.bumped h
  unfold InPlace at h ⊢
  cases t with
  | openObject =>
      obtain ⟨frame, hframe⟩ := hframes
      rw [← Option.some.inj htake, hframe]
      exact hbumped.push
  | openArray =>
      obtain ⟨frame, hframe⟩ := hframes
      rw [← Option.some.inj htake, hframe]
      exact hbumped.push
  | closeObject =>
      obtain ⟨frame, hframe⟩ := hframes
      rw [hframe] at h
      rw [← Option.some.inj htake]
      exact h.pop (hgo.resolve_right (by decide))
  | closeArray =>
      obtain ⟨frame, hframe⟩ := hframes
      rw [hframe] at h
      rw [← Option.some.inj htake]
      exact h.pop (hgo.resolve_right (by decide))
  | scalar v =>
      rw [take?] at htake
      by_cases hdepth : 0 < s.depth
      · rw [if_pos hdepth] at htake
        rw [if_neg (by omega)] at hbumped
        rw [← Option.some.inj htake, hframes]
        exact hbumped
      · have hzero : s.depth = 0 := by
          obtain ⟨inner, -, hlength⟩ := h
          omega
        rw [if_pos hzero] at hbumped
        rw [if_neg hdepth] at htake
        split at htake
        · cases htake
        · rw [← Option.some.inj htake, hframes]
          exact hbumped

/-- A search that has lost count of nothing. -/
structure Sound (s : Scan) : Prop where
  /-- The object that is searched is still open, and so is what is around it. -/
  object : .object s.count :: s.outer <:+ s.reader.frames
  nonneg : 0 ≤ s.depth
  /-- The depth is the number of brackets that are open below the object. -/
  depth : s.depth = s.reader.frames.length - (s.outer.length + 1)
  /-- In the object itself, the count tells whether a key is due, -/
  parity : s.depth = 0 → (s.count % 2 = 0 ↔ s.reader.nameDue = true)
  /-- and if it is, then nothing but a key or the bracket of the object can be read; -/
  key : s.depth = 0 → s.count % 2 = 0 → ∀ t r, s.reader.next? = some (t, r) →
    t = .closeObject ∨ ∃ name, t = .scalar (.string name)
  /-- if not, then no bracket can be closed. -/
  value : s.depth = 0 → s.count % 2 = 1 → ∀ t r, s.reader.next? = some (t, r) → t.isClosing = false

theorem InPlace.sound (h : s.InPlace) : s.Sound := by
  obtain ⟨inner, hframes, hdepth⟩ := h
  have htop : s.depth = 0 → s.reader.frames = .object s.count :: s.outer := by
    intro hzero
    have hnil : inner = [] := List.length_eq_zero_iff.mp (by omega)
    rw [hframes, hnil, List.nil_append]
  have hdue : s.depth = 0 → (s.count % 2 = 0 ↔ s.reader.nameDue = true) := by
    intro hzero
    unfold Reader.nameDue
    rw [htop hzero]
    simp [Frame.nameDue]
  refine ⟨⟨inner, hframes.symm⟩, by omega, ?_, hdue, ?_, ?_⟩
  · rw [hframes, List.length_append, List.length_cons]
    omega
  · intro hzero heven t r hnext
    have hname := (hdue hzero).mp heven
    cases Reader.takes_of_next hnext with
    | openObject _ _ hno => exact nomatch hno.symm.trans hname
    | openArray _ _ hno => exact nomatch hno.symm.trans hname
    | closeObject _ _ _ _ => exact Or.inl rfl
    | closeArray harray _ _ => exact nomatch (htop hzero).symm.trans harray
    | scalar _ _ _ hstring =>
        obtain ⟨name, rfl⟩ := hstring hname
        exact Or.inr ⟨name, rfl⟩
  · intro hzero hodd t r hnext
    cases Reader.takes_of_next hnext with
    | openObject _ _ _ => rfl
    | openArray _ _ _ => rfl
    | closeObject hobject heven _ _ =>
        have hcount := Frame.object.inj (List.cons.inj ((htop hzero).symm.trans hobject)).1
        omega
    | closeArray harray _ _ => exact nomatch (htop hzero).symm.trans harray
    | scalar _ _ _ _ => rfl

end Scan

/-! ## Running the machine -/

namespace Scan

/-- What the code does with a token, read off the machine. -/
theorem turn_eq (seen key : Bytes) {s : Scan} (hdepth : 0 ≤ s.depth) (r : Reader) (t : Token) :
    turn seen key s.depth.toNat s.count r t
      = match s.take? key r t with
        | some s' => searchMembers false seen key s'.depth.toNat s'.count s'.reader
        | none => .ok r := by
  have hzero : s.depth.toNat = 0 ↔ s.depth = 0 := by omega
  have hup : (s.depth + 1).toNat = s.depth.toNat + 1 := by omega
  have hdown : (s.depth - 1).toNat = s.depth.toNat - 1 := by omega
  have hpos : 0 < s.depth.toNat ↔ 0 < s.depth := by omega
  cases t with
  | openObject => simp only [turn, take?, hup, hzero]
  | openArray => simp only [turn, take?, hup, hzero]
  | closeObject => simp only [turn, take?, hdown]
  | closeArray => simp only [turn, take?, hdown]
  | scalar v =>
      simp only [turn, take?, hpos, Bool.and_eq_true, decide_eq_true_eq]
      by_cases hinside : 0 < s.depth
      · rw [if_pos hinside, if_pos hinside]
      rw [if_neg hinside, if_neg hinside]
      by_cases hkey : v = .string key ∧ (s.count + 1) % 2 = 1
      · rw [if_pos hkey, if_pos hkey]
      · rw [if_neg hkey, if_neg hkey]

end Scan

namespace Stage

variable {canceled : Bool} {stage : Stage}

/-- What the machine does at the head of the loop. -/
inductive Turn (canceled : Bool) (seen key : Bytes) (keys : List Bytes) (s : Scan) :
    Stage → Prop where
  | ended : ¬ 0 < s.depth → s.reader.more = false →
      Turn canceled seen key keys s (done (.error (.keyNotFound seen)))
  | canceled : (0 < s.depth ∨ s.reader.more = true) → canceled = true →
      Turn canceled seen key keys s (done (.error (.gaveUp seen .canceled)))
  | unreadable : (0 < s.depth ∨ s.reader.more = true) → canceled = false → s.reader.next? = none →
      Turn canceled seen key keys s (done (.error (.unreadableObject seen .malformedJson)))
  | taken {t : Token} {r : Reader} {s' : Scan} :
      (0 < s.depth ∨ s.reader.more = true) → canceled = false →
      s.reader.next? = some (t, r) → s.take? key r t = some s' →
      Turn canceled seen key keys s (seeking seen key keys s')
  | found {t : Token} {r : Reader} : (0 < s.depth ∨ s.reader.more = true) → canceled = false →
      s.reader.next? = some (t, r) → s.take? key r t = none →
        Turn canceled seen key keys s (landing seen keys r)

theorem turn_step (canceled : Bool) (seen key : Bytes) (keys : List Bytes) (s : Scan) :
    Turn canceled seen key keys s ((seeking seen key keys s).step canceled) := by
  rw [step]
  split
  · rename_i hgo
    have hgo' : 0 < s.depth ∨ s.reader.more = true := by simpa using hgo
    split
    · rename_i hcanceled
      exact Turn.canceled hgo' hcanceled
    rename_i hcanceled
    have hcanceled' : canceled = false := by simpa using hcanceled
    split
    · rename_i hnext
      exact Turn.unreadable hgo' hcanceled' hnext
    · rename_i t r hnext
      split
      · rename_i s' htake
        exact Turn.taken hgo' hcanceled' hnext htake
      · rename_i htake
        exact Turn.found hgo' hcanceled' hnext htake
  · rename_i hstop
    have hstop' : ¬ 0 < s.depth ∧ s.reader.more = false := by simpa using hstop
    exact Turn.ended hstop'.1 hstop'.2

/-- A search, if there is one, is where it takes itself to be. -/
def InPlace : Stage → Prop
  | seeking _ _ _ s => s.InPlace
  | _ => True

/-- Before a token that is read, going on means being inside something or not before a closing
bracket. -/
theorem not_closing {s : Scan} {t : Token} {r : Reader} (hgo : 0 < s.depth ∨ s.reader.more = true)
    (hnext : s.reader.next? = some (t, r)) : 0 < s.depth ∨ t.isClosing = false := by
  refine hgo.imp_right fun hmore => ?_
  rw [Reader.more_of_next hnext] at hmore
  simpa using hmore

/-- **Each step leaves the search in its place.** -/
theorem inPlace_step (h : stage.InPlace) : (stage.step canceled).InPlace := by
  cases stage with
  | done result => trivial
  | landing seen keys r =>
      cases keys with
      | nil => trivial
      | cons key keys =>
          rw [step]
          split
          · trivial
          · rename_i hnext
            cases Reader.takes_of_next hnext with
            | openObject _ _ _ => exact Inside.entered _
          · trivial
  | seeking seen key keys s =>
      have hturn := turn_step canceled seen key keys s
      generalize (seeking seen key keys s).step canceled = stage' at hturn ⊢
      cases hturn with
      | ended _ _ => trivial
      | canceled _ _ => trivial
      | unreadable _ _ _ => trivial
      | taken hgo _ hnext htake => exact Scan.InPlace.take h hnext (not_closing hgo hnext) htake
      | found _ _ _ _ => trivial

/-- **Each step ends the look-up or takes some of the text.** -/
theorem left_step (canceled : Bool) (stage : Stage) :
    (∃ result, stage.step canceled = done result) ∨ (stage.step canceled).left < stage.left := by
  cases stage with
  | done result => exact Or.inl ⟨_, rfl⟩
  | landing seen keys r =>
      cases keys with
      | nil => exact Or.inl ⟨_, rfl⟩
      | cons key keys =>
          rw [step]
          split
          · exact Or.inl ⟨_, rfl⟩
          · rename_i hnext
            exact Or.inr (Reader.next?_length hnext)
          · exact Or.inl ⟨_, rfl⟩
  | seeking seen key keys s =>
      have hturn := turn_step canceled seen key keys s
      generalize (seeking seen key keys s).step canceled = stage' at hturn ⊢
      cases hturn with
      | ended _ _ => exact Or.inl ⟨_, rfl⟩
      | canceled _ _ => exact Or.inl ⟨_, rfl⟩
      | unreadable _ _ _ => exact Or.inl ⟨_, rfl⟩
      | taken _ _ hnext htake =>
          have hlength := Reader.next?_length hnext
          rw [← Scan.take?_reader htake] at hlength
          exact Or.inr hlength
      | found _ _ hnext _ => exact Or.inr (Reader.next?_length hnext)

/-- **Each step is one that the code takes**: the outcome stays the same. -/
theorem outcome_step (h : stage.InPlace) :
    (stage.step canceled).outcome canceled = stage.outcome canceled := by
  cases stage with
  | done result => rfl
  | landing seen keys r =>
      cases keys with
      | nil => rfl
      | cons key keys =>
          rw [outcome, descend, enter, step]
          cases hnext : r.next? with
          | none => rfl
          | some front =>
              obtain ⟨t, r'⟩ := front
              cases t with
              | openObject => rfl
              | openArray => rfl
              | closeObject => rfl
              | closeArray => rfl
              | scalar v => rfl
  | seeking seen key keys s =>
      have hsound := Scan.InPlace.sound h
      have hturn := turn_step canceled seen key keys s
      generalize (seeking seen key keys s).step canceled = stage' at hturn ⊢
      have hmore : 0 < s.depth ∨ s.reader.more = true → s.depth.toNat = 0 →
          s.reader.more = true := by
        intro hgo hzero
        exact hgo.resolve_left (by omega)
      cases hturn with
      | ended hdepth hstop =>
          have hzero : s.depth.toNat = 0 := by omega
          rw [outcome, outcome, hzero, search_ended hstop]
      | canceled hgo hcanceled => rw [outcome, outcome, hcanceled, search_canceled (hmore hgo)]
      | unreadable hgo hcanceled hnext =>
          rw [outcome, outcome, hcanceled, search_unreadable hnext (hmore hgo)]
      | taken hgo hcanceled hnext htake =>
          have hinside : 0 < s.depth.toNat ∨ _ := (not_closing hgo hnext).imp_left (by omega)
          rw [outcome, outcome, hcanceled, search_next hnext hinside,
            Scan.turn_eq _ _ hsound.nonneg, htake]
      | found hgo hcanceled hnext htake =>
          have hinside : 0 < s.depth.toNat ∨ _ := (not_closing hgo hnext).imp_left (by omega)
          rw [outcome, outcome, hcanceled, search_next hnext hinside,
            Scan.turn_eq _ _ hsound.nonneg, htake]

theorem outcome_start (canceled : Bool) (path text : Bytes) :
    (start path text).outcome canceled = find canceled path text := by
  unfold start find
  cases keys? path with
  | none => rfl
  | some keys => rfl

theorem inPlace_start (path text : Bytes) : (start path text).InPlace := by
  unfold start
  split <;> trivial

theorem left_start (path text : Bytes) : (start path text).left ≤ text.length := by
  unfold start
  split
  · exact Nat.zero_le _
  · exact Nat.le_refl _

/-- What holds at every step of a look-up. -/
theorem iterate_start (canceled : Bool) (path text : Bytes) (n : Nat) :
    ((step canceled)^[n] (start path text)).InPlace
      ∧ ((step canceled)^[n] (start path text)).outcome canceled = find canceled path text := by
  induction n with
  | zero => exact ⟨inPlace_start path text, outcome_start canceled path text⟩
  | succ n ih =>
      rw [Function.iterate_succ_apply']
      exact ⟨inPlace_step ih.1, (outcome_step ih.1).trans ih.2⟩

/-- **Every look-up ends**, at the latest one step after its text. -/
theorem exists_done (canceled : Bool) {stage : Stage} (h : stage.InPlace) :
    ∃ n ≤ stage.left + 1, (step canceled)^[n] stage = done (stage.outcome canceled) := by
  -- the text that is left gets shorter with every step but the last
  induction hleft : stage.left using Nat.strongRecOn generalizing stage with
  | ind left ih =>
      have houtcome := @outcome_step canceled stage h
      rcases left_step canceled stage with ⟨result, hdone⟩ | hshorter
      · refine ⟨1, by omega, ?_⟩
        rw [hdone] at houtcome
        rw [Function.iterate_one, hdone, ← houtcome]
        rfl
      · rw [hleft] at hshorter
        obtain ⟨n, hn, hend⟩ := ih _ hshorter (inPlace_step h) rfl
        refine ⟨n + 1, by omega, ?_⟩
        rw [Function.iterate_succ_apply, hend, houtcome]

end Stage

/-- A token is taken from the front of the text. -/
theorem exists_taken {r r' : Reader} {t : Token} (h : r.next? = some (t, r')) :
    ∃ taken, taken ≠ [] ∧ r.rest = taken ++ r'.rest := by
  have hsuffix : r'.rest <:+ r.rest := by
    cases Reader.takes_of_next h with
    | @openObject gap rest _ hrest _ => exact ⟨gap ++ [123], by simp [hrest]⟩
    | @openArray gap rest _ hrest _ => exact ⟨gap ++ [91], by simp [hrest]⟩
    | @closeObject blank rest _ _ _ _ _ hrest => exact ⟨blank ++ [125], by simp [hrest]⟩
    | @closeArray blank rest _ _ _ _ hrest => exact ⟨blank ++ [93], by simp [hrest]⟩
    | @scalar gap text rest _ _ hrest _ _ => exact ⟨gap ++ text, by simp [hrest]⟩
  obtain ⟨taken, htaken⟩ := hsuffix
  refine ⟨taken, ?_, htaken.symm⟩
  intro hnil
  have hlength := Reader.next?_length h
  rw [← htaken, hnil, List.nil_append] at hlength
  omega

/--
**A look-up keeps count in every text, and ends.**

Whatever the text, at the head of the loop the depth is the number of brackets that are open below
the object that is searched, and in the object itself the count is even exactly when a key or the
end of the object is due; from there the code goes on to its own outcome. Each token takes some of
the text, and there is a step for each token, so the end comes after at most one step more than the
text has bytes.
-/
theorem find_in_steps (canceled : Bool) (path text : Bytes) :
    (∀ n seen key keys s, (Stage.step canceled)^[n] (Stage.start path text)
      = .seeking seen key keys s →
        s.Sound ∧ (Stage.seeking seen key keys s).outcome canceled = find canceled path text)
      ∧ (∀ r t r', Reader.next? r = some (t, r') → ∃ taken, taken ≠ [] ∧ r.rest = taken ++ r'.rest)
      ∧ ∃ n ≤ text.length + 1,
          (Stage.step canceled)^[n] (Stage.start path text) = .done (find canceled path text) := by
  refine ⟨?_, fun r t r' => exists_taken, ?_⟩
  · intro n seen key keys s hseeking
    obtain ⟨hplace, houtcome⟩ := Stage.iterate_start canceled path text n
    rw [hseeking] at hplace houtcome
    exact ⟨Scan.InPlace.sound hplace, houtcome⟩
  · obtain ⟨n, hn, hdone⟩ := Stage.exists_done canceled (Stage.inPlace_start path text)
    have hleft := Stage.left_start path text
    rw [Stage.outcome_start] at hdone
    exact ⟨n, by omega, hdone⟩

/-- An array that is open when the bracket of an object comes: the search is one deep in a member
that has begun, and gives up there. -/
theorem find_in_steps_crossed :
    let text := utf8 "\x7b\"b\":[\x7d"
    let s : Scan := ⟨[], 1, 2, ⟨utf8 "\x7d", [.array 0, .object 2]⟩⟩
    (Stage.step false)^[3] (Stage.start (utf8 ".c") text) = .seeking (utf8 ".c") (utf8 "c") [] s
      ∧ s.Sound
      ∧ (∃ t r, (Reader.ofText text).next? = some (t, r)
          ∧ ∃ taken, taken ≠ [] ∧ text = taken ++ r.rest)
      ∧ ∃ n ≤ 8, (Stage.step false)^[n] (Stage.start (utf8 ".c") text)
          = .done (.error (.unreadableObject (utf8 ".c") .malformedJson)) := by
  intro text s
  have hseeking : (Stage.step false)^[3] (Stage.start (utf8 ".c") text)
      = .seeking (utf8 ".c") (utf8 "c") [] s := by
    cbv
  have hopen : (Reader.ofText text).next?
      = some (.openObject, ⟨utf8 "\"b\":[\x7d", [.object 0]⟩) := by
    decide
  have hfind : find false (utf8 ".c") text
      = .error (.unreadableObject (utf8 ".c") .malformedJson) := by
    cbv
  obtain ⟨hsound, htaken, hdone⟩ := find_in_steps false (utf8 ".c") text
  rw [hfind] at hdone
  exact ⟨hseeking, (hsound 3 _ _ _ _ hseeking).1, ⟨_, _, hopen, htaken _ _ _ hopen⟩, hdone⟩

end KeyPath

end Json

end ImportLookup
