import Mathlib
import ImportLookup.Proofs.CutText
import ImportLookup.Proofs.Precedence

/-!
# When a key is missing

A search that finds no key ends at a closing bracket. The loop sees that bracket
only through `more`, which does not say of which kind it is, nor whether it may
stand there; it never reads it. Here it is said what that leaves: in front of the
bracket there are the complete members of an object, none with the key, and
perhaps one more key without a value (`InVain`). Only if the bracket is the right
one, the text is an object.

What does hold is that a bracket is needed. A text that ends before it, or in the
middle of a key or value, cannot be decoded, and that is what is reported. To show
this, a search in a text is compared with the same search in the text gone on
(`AfterCut`): the text is undecodable, or both end alike.
-/

namespace ImportLookup

namespace Json

/-- How deep the search is behind a token. -/
def Token.level (depth : Nat) : Token → Nat
  | openObject | openArray => depth + 1
  | closeObject | closeArray => depth - 1
  | scalar _ => depth

namespace KeyPath

/-! ## The search, token by token -/

section Steps

variable {seen key : Bytes} {depth count : Nat} {r r' : Reader} {t : Token}

theorem search_step_inside (hnext : r.next? = some (t, r')) :
    searchMembers false seen key (depth + 1) count r
      = searchMembers false seen key (t.level (depth + 1)) count r' := by
  rw [search_next hnext (Or.inl (Nat.succ_pos _))]
  cases t <;> simp [turn, Token.level]

theorem search_step_beside (hnext : r.next? = some (t, r')) (hopen : t.isClosing = false)
    (hother : ¬ (t = .scalar (.string key) ∧ (count + 1) % 2 = 1)) :
    searchMembers false seen key 0 count r
      = searchMembers false seen key (t.level 0) (count + 1) r' := by
  rw [search_next hnext (Or.inr hopen)]
  cases t with
  | openObject => rfl
  | openArray => rfl
  | closeObject => exact nomatch hopen
  | closeArray => exact nomatch hopen
  | scalar s =>
      rw [turn, if_neg (Nat.lt_irrefl 0), if_neg]
      · rfl
      · simpa using hother

theorem search_step_found (hnext : r.next? = some (.scalar (.string key), r'))
    (hodd : (count + 1) % 2 = 1) :
    searchMembers false seen key 0 count r = .ok r' := by
  rw [search_next hnext (Or.inr rfl), turn, if_neg (Nat.lt_irrefl 0), if_pos (by simp [hodd])]

end Steps

/-- A search that is run to its end, one token after the other. -/
inductive Search (seen key : Bytes) : Nat → Nat → Reader → Except Failure Reader → Prop where
  | ended {count : Nat} {r : Reader} :
      r.more = false → Search seen key 0 count r (.error (.keyNotFound seen))
  | unreadable {depth count : Nat} {r : Reader} : r.next? = none → (depth = 0 → r.more = true) →
      Search seen key depth count r (.error (.unreadableObject seen .malformedJson))
  | found {count : Nat} {r r' : Reader} :
      r.next? = some (.scalar (.string key), r') → (count + 1) % 2 = 1 →
      Search seen key 0 count r (.ok r')
  | beside {count : Nat} {r r' : Reader} {t : Token} {result : Except Failure Reader} :
      r.next? = some (t, r') → t.isClosing = false →
        ¬ (t = .scalar (.string key) ∧ (count + 1) % 2 = 1) →
      Search seen key (t.level 0) (count + 1) r' result → Search seen key 0 count r result
  | inside {depth count : Nat} {r r' : Reader} {t : Token} {result : Except Failure Reader} :
      r.next? = some (t, r') → Search seen key (t.level (depth + 1)) count r' result →
      Search seen key (depth + 1) count r result

/-- **Every search is run to its end.** -/
theorem search_run (seen key : Bytes) (depth count : Nat) (r : Reader) :
    Search seen key depth count r (searchMembers false seen key depth count r) := by
  -- the text gets shorter with every token
  induction hlength : r.rest.length using Nat.strongRecOn generalizing depth count r with
  | ind n ih =>
      cases hnext : r.next? with
      | none =>
          by_cases hended : depth = 0 ∧ r.more = false
          · obtain ⟨rfl, hmore⟩ := hended
            rw [search_ended hmore]
            exact Search.ended hmore
          · have hmore : depth = 0 → r.more = true := by simpa using hended
            rw [search_unreadable hnext hmore]
            exact Search.unreadable hnext hmore
      | some front =>
          obtain ⟨t, r'⟩ := front
          have hshorter : r'.rest.length < n := hlength ▸ Reader.next?_length hnext
          cases depth with
          | succ depth =>
              rw [search_step_inside hnext]
              exact Search.inside hnext (ih _ hshorter _ _ _ rfl)
          | zero =>
              cases hclose : t.isClosing with
              | true =>
                  have hmore : r.more = false := by rw [Reader.more_of_next hnext, hclose]; rfl
                  rw [search_ended hmore]
                  exact Search.ended hmore
              | false =>
                  by_cases hkey : t = .scalar (.string key) ∧ (count + 1) % 2 = 1
                  · obtain ⟨rfl, hodd⟩ := hkey
                    rw [search_step_found hnext hodd]
                    exact Search.found hnext hodd
                  · rw [search_step_beside hnext hclose hkey]
                    exact Search.beside hnext hclose hkey (ih _ hshorter _ _ _ rfl)

/-! ## What has been searched -/

/-- A text in which a key has been searched for in vain, from the bracket of the object on. -/
inductive InVain (key : Bytes) : Bytes → Prop where
  /-- The object is complete. -/
  | closed {object rest : Bytes} {ms : List (Bytes × Value)} :
      Spells object (.object ms) → ms.lookup key = none →
      InVain key (object ++ rest)
  /-- The members are followed by the bracket of an array. -/
  | crossed {inner after rest : Bytes} {ms : List (Bytes × Value)} :
      SpellsMembers inner ms → ms.lookup key = none →
      Blank after → InVain key (123 :: (inner ++ (after ++ 93 :: rest)))
  /-- The last key has a bracket for a value. -/
  | valueless {inner gap rest name : Bytes} {ms : List (Bytes × Value)} {c : UInt8} :
      (Part.key ms name).Spelled inner → ms.lookup key = none → name ≠ key →
        Gap (some Reader.colon) gap →
      c = 125 ∨ c = 93 → InVain key (123 :: (inner ++ (gap ++ c :: rest)))

/-- What becomes of the text behind the bracket of an object that is searched, and of the search. -/
inductive Searched (seen key : Bytes) (outer : List Frame) :
    Bytes → Except Failure Reader → Prop where
  | found {inner rest : Bytes} {ms : List (Bytes × Value)} :
      (Part.key ms key).Spelled inner → ms.lookup key = none →
      Searched seen key outer (inner ++ rest) (.ok ⟨rest, (Part.key ms key).frame :: outer⟩)
  | inVain {text : Bytes} : InVain key (123 :: text) →
      Searched seen key outer text (.error (.keyNotFound seen))
  | unreadable {text : Bytes} :
      Searched seen key outer text (.error (.unreadableObject seen .malformedJson))

/-- Where a search is: the parts that are open, from the object that is searched, with the depth and
the count that go with them. -/
inductive Scanning (key : Bytes) : List Part → Nat → Nat → Prop where
  | members {ms : List (Bytes × Value)} :
      ms.lookup key = none → Scanning key [.members ms] 0 (2 * ms.length)
  | value {ms : List (Bytes × Value)} {name : Bytes} : ms.lookup key = none → name ≠ key →
      Scanning key [.key ms name] 0 (2 * ms.length + 1)
  | inside {ms : List (Bytes × Value)} {name : Bytes} {p : Part} {ps : List Part} :
      ms.lookup key = none →
      name ≠ key → Scanning key (p :: (ps ++ [.key ms name])) (ps.length + 1) (2 * ms.length + 2)

namespace Scanning

variable {key : Bytes} {ps ps' : List Part} {depth count : Nat} {t : Token}

theorem filled {ms : List (Bytes × Value)} {name : Bytes} (hms : ms.lookup key = none)
    (hname : name ≠ key) (v : Value) :
    Scanning key [(Part.key ms name).filled v] 0 (2 * ms.length + 2) := by
  have hlookup : (ms ++ [(name, v)]).lookup key = none := by
    rw [List.lookup_append, hms, Option.none_or, List.lookup_cons, beq_false_of_ne hname.symm]
    rfl
  have hcount : 2 * (ms ++ [(name, v)]).length = 2 * ms.length + 2 := by
    rw [List.length_append, List.length_singleton]
    omega
  rw [← hcount]
  exact Scanning.members hlookup

theorem parts (h : Scanning key ps depth count) : ∃ p qs, ps = p :: qs := by
  cases h with
  | members _ => exact ⟨_, _, rfl⟩
  | value _ _ => exact ⟨_, _, rfl⟩
  | inside _ _ => exact ⟨_, _, rfl⟩

theorem of_inside (h : Scanning key ps (depth + 1) count) :
    ∃ ms name p qs, ms.lookup key = none ∧ name ≠ key ∧ ps = p :: (qs ++ [.key ms name])
      ∧ depth = qs.length
      ∧ count = 2 * ms.length + 2 := by
  cases h with
  | @inside ms name p qs hms hname => exact ⟨ms, name, p, qs, hms, hname, rfl, rfl, rfl⟩

/-- The part that is closed completes a value in the one around it. -/
theorem close {p q : Part} {v : Value} (h : Scanning key (p :: q :: ps) (depth + 1) count) :
    Scanning key (q.filled v :: ps) depth count := by
  obtain ⟨ms, name, p', qs, hms, hname, hparts, rfl, rfl⟩ := h.of_inside
  obtain ⟨-, htail⟩ := List.cons.inj hparts
  cases qs with
  | nil =>
      obtain ⟨rfl, rfl⟩ := List.cons.inj htail
      exact Scanning.filled hms hname v
  | cons q' qs =>
      obtain ⟨rfl, rfl⟩ := List.cons.inj htail
      exact Scanning.inside hms hname

/-- The innermost part may be replaced. -/
theorem replace {p p' : Part} (h : Scanning key (p :: ps) (depth + 1) count) :
    Scanning key (p' :: ps) (depth + 1) count := by
  obtain ⟨ms, name, p'', qs, hms, hname, hparts, rfl, rfl⟩ := h.of_inside
  obtain ⟨-, rfl⟩ := List.cons.inj hparts
  exact Scanning.inside hms hname

/-- One more part lies in the innermost. -/
theorem push {p q : Part} (h : Scanning key (p :: ps) (depth + 1) count) :
    Scanning key (q :: p :: ps) (depth + 2) count := by
  obtain ⟨ms, name, p', qs, hms, hname, hparts, rfl, rfl⟩ := h.of_inside
  obtain ⟨-, rfl⟩ := List.cons.inj hparts
  exact @Scanning.inside key ms name q (p :: qs) hms hname

/-- Inside something, depth and parts go together. -/
theorem step_inside (hmoves : Moves t ps ps') (h : Scanning key ps (depth + 1) count) :
    Scanning key ps' (t.level (depth + 1)) count := by
  cases hmoves with
  | openObject _ => exact h.push
  | openArray _ => exact h.push
  | closeObject => exact h.close
  | closeArray => exact h.close
  | value _ => exact h.replace
  | key => exact h.replace

/-- In the object itself, every token is counted. -/
theorem step_beside (hmoves : Moves t ps ps') (h : Scanning key ps 0 count)
    (hother : ¬ (t = .scalar (.string key) ∧ (count + 1) % 2 = 1)) :
    Scanning key ps' (t.level 0) (count + 1) := by
  cases h with
  | members hms =>
      -- only a key may come
      cases hmoves with
      | openObject hp => exact nomatch hp
      | openArray hp => exact nomatch hp
      | value hp => exact nomatch hp
      | key =>
          refine Scanning.value hms fun hname => hother ⟨?_, by omega⟩
          rw [hname]
  | value hms hname =>
      cases hmoves with
      | openObject _ => exact @Scanning.inside key _ _ _ [] hms hname
      | openArray _ => exact @Scanning.inside key _ _ _ [] hms hname
      | value _ => exact Scanning.filled hms hname _

end Scanning

/-- No bracket is read at the end: what stands there is what `more` has seen. -/
theorem inVain_of_ended {key text : Bytes} {ps : List Part} {count : Nat} {outer : List Frame}
    {r : Reader} (hmore : r.more = false) (hframes : r.frames = Part.frames ps ++ outer)
    (h : Unclosed ps text) (hscan : Scanning key ps 0 count) :
    InVain key (123 :: (text ++ r.rest)) := by
  unfold Reader.more at hmore
  cases hpeek : r.peek? with
  | none =>
      rw [hpeek] at hmore
      exact nomatch hmore
  | some front =>
      obtain ⟨c, rest⟩ := front
      rw [hpeek] at hmore
      have hclosing : Reader.isClosing c = true := by simpa using hmore
      have hc : c = 125 ∨ c = 93 := by simpa [Reader.isClosing] using hclosing
      obtain ⟨gap, hgap, hrest⟩ := Reader.peek?_eq_some hpeek
      rw [hframes] at hgap
      rw [hrest]
      cases hscan with
      | @members ms hms =>
          have hframe : (Part.members ms).frame.valueDue = false := by
            simp [Part.frame, Frame.valueDue]
          rw [Part.frames, List.cons_append, Reader.separatorDue_closing hframe hclosing] at hgap
          cases h with
          | one hspelled =>
              cases hspelled with
              | members hmembers =>
                  rcases hc with rfl | rfl
                  · have hobject :=
                      @InVain.closed key _ rest _ (Spells.object hmembers hgap.blank) hms
                    simpa using hobject
                  · exact InVain.crossed hmembers hms hgap.blank
      | @value ms name hms hname =>
          have hdue : Reader.separatorDue (Part.frames [.key ms name] ++ outer) c
              = some Reader.colon := by
            have hodd : (2 * ms.length + 1) % 2 = 1 := by omega
            simp [Part.frames, Part.frame, Reader.separatorDue, Frame.valueDue, hodd]
          rw [hdue] at hgap
          cases h with
          | one hspelled => exact InVain.valueless hspelled hms hname hgap hc

/-- **What a search has gone through**, from behind the bracket of the object. -/
theorem Search.searched {seen key : Bytes} {depth count : Nat} {r : Reader}
    {result : Except Failure Reader} (h : Search seen key depth count r result) {outer : List Frame}
    {ps : List Part} {text : Bytes} (hframes : r.frames = Part.frames ps ++ outer)
    (hunclosed : Unclosed ps text) (hscan : Scanning key ps depth count) :
    Searched seen key outer (text ++ r.rest) result := by
  induction h generalizing ps text with
  | ended hmore => exact Searched.inVain (inVain_of_ended hmore hframes hunclosed hscan)
  | unreadable _ _ => exact Searched.unreadable
  | @found count r r' hnext hodd =>
      cases hscan with
      | value _ _ => omega
      | @members ms hms =>
          obtain ⟨ps', added, hmoves, hrest, hunclosed', hframes'⟩ :=
            moves_of_next hnext hframes hunclosed fun hclose => nomatch hclose
          cases hmoves with
          | value hp => exact nomatch hp
          | key =>
              cases hunclosed' with
              | one hspelled =>
                  have hr' : r' = ⟨r'.rest, (Part.key ms key).frame :: outer⟩ :=
                    congrArg (Reader.mk r'.rest) hframes'
                  rw [hrest, ← List.append_assoc, hr']
                  exact Searched.found hspelled hms
  | beside hnext hopen hother _ ih =>
      obtain ⟨p, ps, rfl⟩ := hscan.parts
      obtain ⟨ps', added, hmoves, hrest, hunclosed', hframes'⟩ :=
        moves_of_next hnext hframes hunclosed fun hclose => nomatch hopen.symm.trans hclose
      rw [hrest, ← List.append_assoc]
      exact ih hframes' hunclosed' (hscan.step_beside hmoves hother)
  | inside hnext _ ih =>
      obtain ⟨ms, name, p, qs, -, -, rfl, -, -⟩ := hscan.of_inside
      obtain ⟨ps', added, hmoves, hrest, hunclosed', hframes'⟩ :=
        moves_of_next hnext hframes hunclosed
          fun _ => List.append_ne_nil_of_right_ne_nil qs (List.cons_ne_nil _ _)
      rw [hrest, ← List.append_assoc]
      exact ih hframes' hunclosed' (hscan.step_inside hmoves)

/-! ## The descent -/

/-- The keys of a path lead to an object that has been searched in vain. `sep` is due before the
text, and `reported` is what `seen` has become there. -/
inductive Missed : Option UInt8 → Bytes → List Bytes → Bytes → Bytes → Prop where
  | here {sep : Option UInt8} {seen key gap object : Bytes} {keys : List Bytes} :
      Gap sep gap → InVain key object →
      Missed sep seen (key :: keys) (gap ++ object) (seen ++ key)
  | further {sep : Option UInt8} {seen key gap inner rest reported : Bytes} {keys : List Bytes}
      {ms : List (Bytes × Value)} : Gap sep gap → (Part.key ms key).Spelled inner →
        ms.lookup key = none →
      Missed (some Reader.colon) (seen ++ key) keys rest reported →
      Missed sep seen (key :: keys) (gap ++ 123 :: (inner ++ rest)) reported

/-- The text is not JSON as far as it has been read. -/
inductive Undecodable : Failure → Prop where
  | object {seen : Bytes} : Undecodable (.unreadableObject seen .malformedJson)
  | value {seen : Bytes} : Undecodable (.unreadableValue seen .malformedJson)

/-- What comes of entering an object. -/
theorem enter_cases (seen key : Bytes) (r : Reader) :
    enter false seen key r = .error (.unreadableObject seen .malformedJson)
      ∨ enter false seen key r = .error (.notObject seen)
      ∨ ∃ gap text, Gap (Reader.separatorDue r.frames 0) gap ∧ r.rest = gap ++ 123 :: text
        ∧ Searched (seen ++ key) key (Reader.bumped r.frames) text (enter false seen key r) := by
  unfold enter
  split
  · exact Or.inl rfl
  · rename_i r' hnext
    refine Or.inr (Or.inr ?_)
    cases Reader.takes_of_next hnext with
    | @openObject gap rest hgap hrest _ =>
        have hframes : Frame.object 0 :: Reader.bumped r.frames
            = Part.frames [.members []] ++ Reader.bumped r.frames := rfl
        have hstart : Unclosed [.members []] [] :=
          Unclosed.one (Part.Spelled.members SpellsMembers.none)
        have hsearch := search_run (seen ++ key) key 0 0 ⟨rest, .object 0 :: Reader.bumped r.frames⟩
        exact ⟨gap, rest, hgap, hrest, hsearch.searched hframes hstart (Scanning.members rfl)⟩
  · exact Or.inr (Or.inl rfl)

/-- Enters one member after the other. -/
def follow (seen : Bytes) : List Bytes → Reader → Except Failure Reader
  | [], r => .ok r
  | key :: keys, r =>
    match enter false seen key r with
    | .ok r => follow (seen ++ key) keys r
    | .error e => .error e

/-- The scalar that comes next. -/
def scalarNext (seen : Bytes) (r : Reader) : Except Failure Scalar := descend false seen [] r

theorem descend_eq (seen : Bytes) (keys : List Bytes) (r : Reader) :
    descend false seen keys r
      = match follow seen keys r with
        | .ok r' => scalarNext (keys.foldl (· ++ ·) seen) r'
        | .error e => .error e := by
  induction keys generalizing seen r with
  | nil => rfl
  | cons key keys ih =>
      rw [descend, follow]
      cases enter false seen key r with
      | error e => rfl
      | ok r' => exact ih (seen ++ key) r'

/-- **The failures of a descent**: the text is unfit, or a key is missed in an object on the way. -/
theorem follow_error {seen : Bytes} {keys : List Bytes} {r : Reader} {e : Failure}
    (h : follow seen keys r = .error e) :
    Undecodable e ∨ (∃ seen', e = .notObject seen')
      ∨ ∃ reported, e = .keyNotFound reported
        ∧ Missed (Reader.separatorDue r.frames 0) seen keys r.rest reported := by
  induction keys generalizing seen r with
  | nil => exact nomatch h
  | cons key keys ih =>
      rw [follow] at h
      rcases enter_cases seen key r with henter | henter | ⟨gap, text, hgap, hrest, hsearched⟩
      · rw [henter] at h
        obtain rfl := Except.error.inj h
        exact Or.inl Undecodable.object
      · rw [henter] at h
        exact Or.inr (Or.inl ⟨seen, (Except.error.inj h).symm⟩)
      · rw [hrest]
        generalize enter false seen key r = result at h hsearched
        cases hsearched with
        | unreadable =>
            obtain rfl := Except.error.inj h
            exact Or.inl Undecodable.object
        | inVain hvain =>
            exact Or.inr (Or.inr ⟨_, (Except.error.inj h).symm, Missed.here hgap hvain⟩)
        | @found inner rest ms hspelled hms =>
            rcases ih h with hun | hnot | ⟨reported, he, hmissed⟩
            · exact Or.inl hun
            · exact Or.inr (Or.inl hnot)
            · rw [Part.separatorDue_frame] at hmissed
              exact Or.inr (Or.inr ⟨reported, he, Missed.further hgap hspelled hms hmissed⟩)

/-! ## A text that is cut off -/

/-- What a search or descent comes to in a text and in that text gone on. -/
inductive AfterCut (more : Bytes) : Except Failure Reader → Except Failure Reader → Prop where
  | undecodable {e : Failure} {whole : Except Failure Reader} :
      Undecodable e → AfterCut more (.error e) whole
  | found {r : Reader} : AfterCut more (.ok r) (.ok (r.followedBy more))
  | missed {seen : Bytes} : AfterCut more (.error (.keyNotFound seen)) (.error (.keyNotFound seen))
  /-- What stands at the end may be another scalar in the text gone on, but no object. -/
  | notObject {seen : Bytes} {e : Failure} : (∀ seen', e ≠ .keyNotFound seen') →
      AfterCut more (.error (.notObject seen)) (.error e)

/-- At the end of the text nothing can be decoded. -/
theorem Search.at_end {seen key : Bytes} {depth count : Nat} {r : Reader}
    {result : Except Failure Reader} (h : Search seen key depth count r result)
    (hrest : r.rest = []) :
    result = .error (.unreadableObject seen .malformedJson) := by
  have hnone := Reader.next?_nil hrest
  cases h with
  | unreadable _ _ => rfl
  | ended hmore =>
      unfold Reader.more at hmore
      rw [Reader.peek?_nil hrest] at hmore
      exact nomatch hmore
  | found hnext _ => exact nomatch hnone.symm.trans hnext
  | beside hnext _ _ _ => exact nomatch hnone.symm.trans hnext
  | inside hnext _ => exact nomatch hnone.symm.trans hnext

/-- **A search in a text that is cut off** ends as in the whole one, or cannot decode the text. -/
theorem Search.afterCut {seen key : Bytes} {depth count : Nat} {r : Reader}
    {result : Except Failure Reader} (h : Search seen key depth count r result) (more : Bytes) :
    AfterCut more result (searchMembers false seen key depth count (r.followedBy more)) := by
  induction h with
  | ended hmore =>
      rw [search_ended (Reader.more_followedBy hmore more)]
      exact AfterCut.missed
  | unreadable _ _ => exact AfterCut.undecodable Undecodable.object
  | found hnext hodd =>
      rcases Reader.next?_followedBy hnext more with hnext' | ⟨-, ⟨bits, hbits⟩, -⟩
      · rw [search_step_found hnext' hodd]
        exact AfterCut.found
      · exact nomatch hbits
  | beside hnext hopen hother hsearch ih =>
      rcases Reader.next?_followedBy hnext more with hnext' | ⟨hend, -, -⟩
      · rw [search_step_beside hnext' hopen hother]
        exact ih
      · rw [hsearch.at_end hend]
        exact AfterCut.undecodable Undecodable.object
  | inside hnext hsearch ih =>
      rcases Reader.next?_followedBy hnext more with hnext' | ⟨hend, -, -⟩
      · rw [search_step_inside hnext']
        exact ih
      · rw [hsearch.at_end hend]
        exact AfterCut.undecodable Undecodable.object

theorem enter_afterCut (seen key : Bytes) (r : Reader) (more : Bytes) :
    AfterCut more (enter false seen key r) (enter false seen key (r.followedBy more)) := by
  unfold enter
  cases hnext : r.next? with
  | none => exact AfterCut.undecodable Undecodable.object
  | some front =>
      obtain ⟨t, r'⟩ := front
      rcases Reader.next?_followedBy hnext more with hnext' | ⟨-, ⟨bits, rfl⟩, hnumber⟩
      · rw [hnext']
        cases t with
        | openObject => exact (search_run (seen ++ key) key 0 0 r').afterCut more
        | _ => exact AfterCut.notObject fun _ h => nomatch h
      · cases hwhole : (r.followedBy more).next? with
        | none => exact AfterCut.notObject fun _ h => nomatch h
        | some front =>
            obtain ⟨t', r''⟩ := front
            obtain ⟨bits', rfl⟩ := hnumber t' r'' hwhole
            exact AfterCut.notObject fun _ h => nomatch h

/-- **A descent in a text that is cut off** ends as in the whole one, or cannot decode the text, or
meets a scalar there. -/
theorem follow_afterCut (seen : Bytes) (keys : List Bytes) (r : Reader) (more : Bytes) :
    AfterCut more (follow seen keys r) (follow seen keys (r.followedBy more)) := by
  induction keys generalizing seen r with
  | nil => exact AfterCut.found
  | cons key keys ih =>
      have henter := enter_afterCut seen key r more
      rw [follow, follow]
      generalize enter false seen key r = result at henter
      generalize enter false seen key (r.followedBy more) = whole at henter
      cases henter with
      | undecodable he => exact AfterCut.undecodable he
      | found => exact ih (seen ++ key) _
      | missed => exact AfterCut.missed
      | notObject he => exact AfterCut.notObject he

/-- The text ends before what the keys lead to in some text that begins with it. -/
def CutOff (keys : List Bytes) (text : Bytes) : Prop :=
  ∃ more r, follow start keys (Reader.ofText (text ++ more)) = .ok r ∧ r.rest.length ≤ more.length

/-! ## The value at a key path -/

theorem Undecodable.not_keyMissing {e : Failure} (h : Undecodable e) : ¬ e.KeyMissing := by
  rintro ⟨seen, hseen⟩
  cases h with
  | object => simp [Failure.causes] at hseen
  | value => simp [Failure.causes] at hseen

section Paths

variable {path text seen : Bytes} {keys : List Bytes}

theorem find_eq (hkeys : keys? path = some keys) (text : Bytes) :
    find false path text
      = match follow start keys (Reader.ofText text) with
        | .ok r => scalarNext (keys.foldl (· ++ ·) start) r
        | .error e => .error e := by
  rw [find, hkeys]
  exact descend_eq start keys (Reader.ofText text)

theorem scalarNext_error {r : Reader} {e : Failure} (h : scalarNext seen r = .error e) :
    Undecodable e ∨ e = .notScalar seen := by
  unfold scalarNext descend at h
  split at h
  · obtain rfl := Except.error.inj h
    exact Or.inl Undecodable.value
  · exact nomatch h
  · exact Or.inr (Except.error.inj h).symm

theorem scalarNext_at_end {r : Reader} (h : r.rest = []) :
    scalarNext seen r = .error (.unreadableValue seen .malformedJson) := by
  rw [scalarNext, descend, Reader.next?_nil h]

/-- A key is missing where the descent says so. -/
theorem find_keyNotFound_iff (hkeys : keys? path = some keys) :
    find false path text = .error (.keyNotFound seen)
      ↔ follow start keys (Reader.ofText text) = .error (.keyNotFound seen) := by
  rw [find_eq hkeys]
  cases follow start keys (Reader.ofText text) with
  | error e =>
      exact ⟨fun h => congrArg _ (Except.error.inj h), fun h => congrArg _ (Except.error.inj h)⟩
  | ok r =>
      refine ⟨fun h => ?_, fun h => nomatch h⟩
      rcases scalarNext_error h with he | he
      · exact nomatch he
      · exact nomatch he

theorem find_missed (hkeys : keys? path = some keys)
    (h : find false path text = .error (.keyNotFound seen)) :
    Missed none start keys text seen := by
  rcases follow_error ((find_keyNotFound_iff hkeys).1 h)
    with hun | ⟨seen', hnot⟩ | ⟨reported, he, hmissed⟩
  · exact nomatch hun
  · exact nomatch hnot
  · obtain rfl := Failure.keyNotFound.inj he
    exact hmissed

theorem find_error {e : Failure} (hkeys : keys? path = some keys)
    (h : find false path text = .error e) (he : e.KeyMissing) : ∃ seen, e = .keyNotFound seen := by
  obtain ⟨seen, hseen⟩ := he
  have hfit : ¬ Undecodable e := fun hun => hun.not_keyMissing ⟨seen, hseen⟩
  rw [find_eq hkeys] at h
  cases hfollow : follow start keys (Reader.ofText text) with
  | error e' =>
      rw [hfollow] at h
      obtain rfl := Except.error.inj h
      rcases follow_error hfollow with hun | ⟨seen', rfl⟩ | ⟨reported, he, -⟩
      · exact absurd hun hfit
      · simp [Failure.causes] at hseen
      · exact ⟨reported, he⟩
  | ok r =>
      rw [hfollow] at h
      rcases scalarNext_error h with hun | rfl
      · exact absurd hun hfit
      · simp [Failure.causes] at hseen

/-- A key that is missing is also missing if the text goes on. -/
theorem find_settled (hkeys : keys? path = some keys)
    (h : find false path text = .error (.keyNotFound seen)) (more : Bytes) :
    find false path (text ++ more) = .error (.keyNotFound seen) := by
  have hcut := follow_afterCut start keys (Reader.ofText text) more
  rw [(find_keyNotFound_iff hkeys).1 h] at hcut
  refine (find_keyNotFound_iff hkeys).2 ?_
  show follow start keys ((Reader.ofText text).followedBy more) = _
  generalize follow start keys ((Reader.ofText text).followedBy more) = whole at hcut
  cases hcut with
  | undecodable he => exact nomatch he
  | missed => rfl

/-- If a key is missing in a text that goes on, it is already missing or the text cannot be
decoded. -/
theorem find_unsettled {more : Bytes} (hkeys : keys? path = some keys)
    (h : find false path (text ++ more) = .error (.keyNotFound seen)) :
    find false path text = .error (.keyNotFound seen)
      ∨ ∃ e, Undecodable e ∧ find false path text = .error e := by
  have hcut := follow_afterCut start keys (Reader.ofText text) more
  have hwhole : follow start keys ((Reader.ofText text).followedBy more)
      = .error (.keyNotFound seen) :=
    (find_keyNotFound_iff hkeys).1 h
  rw [hwhole] at hcut
  rw [find_eq hkeys]
  generalize follow start keys (Reader.ofText text) = result at hcut
  cases hcut with
  | undecodable he => exact Or.inr ⟨_, he, rfl⟩
  | missed => exact Or.inl rfl
  | notObject he => exact absurd rfl (he seen)

/-- **A text that is cut off before what the keys lead to cannot be decoded.** -/
theorem find_cutOff (hkeys : keys? path = some keys) (h : CutOff keys text) :
    ∃ e, Undecodable e ∧ find false path text = .error e := by
  obtain ⟨more, r, hwhole, hlength⟩ := h
  have hcut := follow_afterCut start keys (Reader.ofText text) more
  have hgone : follow start keys ((Reader.ofText text).followedBy more) = .ok r := hwhole
  rw [hgone] at hcut
  rw [find_eq hkeys]
  generalize follow start keys (Reader.ofText text) = result at hcut
  cases hcut with
  | undecodable he => exact ⟨_, he, rfl⟩
  | @found r =>
      -- everything up to the end of the text has been read
      have hend : r.rest = [] := by
        have hsum : r.rest.length + more.length ≤ more.length := by
          rw [← List.length_append]
          exact hlength
        exact List.length_eq_zero_iff.mp (by omega)
      exact ⟨_, Undecodable.value, scalarNext_at_end hend⟩

end Paths

end KeyPath

end Json

open Json Json.KeyPath

/-! ## The compiler configuration -/

theorem outDir_read {d : Disk} {path text : Bytes} (hclean : Path.clean path = path)
    (hread : d.read path = .ok text) :
    outDir d path
      = match find false outDirKeyPath text with
        | .ok (.string dir) => .ok (placedAt path dir)
        | .ok _ => .error (.notString outDirKeyPath path)
        | .error e => .error (.finding outDirKeyPath path e) := by
  unfold outDir
  rw [hclean]
  dsimp only
  rw [hread]
  dsimp only
  cases find false outDirKeyPath text with
  | error e => rfl
  | ok scalar =>
      cases scalar with
      | string dir =>
          dsimp only
          unfold placedAt
          split <;> rfl
      | _ => rfl

theorem Failure.keyMissing_finding {keyPath path : Bytes} {e : Failure} :
    (Failure.finding keyPath path e).KeyMissing ↔ e.KeyMissing := by
  simp [Failure.KeyMissing, Failure.causes]

namespace Sources

/-- What goes wrong in a compiler configuration that was asked for is reported, unless a key is
missing. -/
theorem load_finding {d : Disk} {s : Sources} {text : Bytes} {e : Failure}
    (hasked : s.compilerFile ≠ []) (hread : d.read s.compilerPath = .ok text)
    (hfind : find false outDirKeyPath text = .error e) (hkey : ¬ e.KeyMissing) :
    (s.load d).2 = some (.finding outDirKeyPath s.compilerPath e) := by
  have hout : outDir d s.compilerPath = .error (.finding outDirKeyPath s.compilerPath e) := by
    rw [outDir_read s.clean_compilerPath hread, hfind]
  have hpath : s.pathOf s.compilerFile defaultCompilerFile = s.compilerPath := rfl
  have hground : s.ground d = .error (.finding outDirKeyPath s.compilerPath e) := by
    unfold ground
    rw [resolve_eq, hpath]
    dsimp only
    rw [hout]
    dsimp only
    rw [List.isEmpty_eq_false_iff.2 hasked, Bool.not_false, Bool.not_true, Bool.or_false]
    exact if_neg fun h => hkey (Failure.keyMissing_finding.1 (Failure.keyMissing_iff.2 h))
  unfold load
  rw [hground]

/-- A compiler configuration that was asked for is passed over only if a key is missing. -/
theorem keyNotFound_of_passedOver {d : Disk} {s : Sources} {text : Bytes} {keys : List Bytes}
    (hkeys : keys? outDirKeyPath = some keys) (hasked : s.compilerFile ≠ [])
    (hread : d.read s.compilerPath = .ok text) (hnone : outDirIn d s.compilerPath = none)
    (hload : (s.load d).2 = none) :
    ∃ seen, find false outDirKeyPath text = .error (.keyNotFound seen) := by
  have hworks : ¬ s.CompilerFails d := by
    rcases s.load_cases d with ⟨-, e, he⟩ | ⟨hworks, -⟩
    · exact nomatch hload.symm.trans he
    · exact fun h => hworks (Or.inl h)
  have hout := outDir_read s.clean_compilerPath hread
  unfold outDirIn at hnone
  rw [hread] at hnone
  cases hfind : find false outDirKeyPath text with
  | error e =>
      rw [hfind] at hout
      have hkey : e.KeyMissing := Classical.not_not.1 fun h =>
        hworks ⟨hasked, _, hout, fun h' => h (Failure.keyMissing_finding.1 h')⟩
      obtain ⟨seen, rfl⟩ := find_error hkeys hfind hkey
      exact ⟨seen, rfl⟩
  | ok scalar =>
      rw [hfind] at hout
      have hstring : ∃ dir, scalar = .string dir := by
        cases scalar with
        | string dir => exact ⟨dir, rfl⟩
        | _ => exact absurd ⟨hasked, _, hout, by simp [Failure.KeyMissing, Failure.causes]⟩ hworks
      obtain ⟨dir, rfl⟩ := hstring
      simp [Except.toOption, hfind] at hnone

end Sources

/-! ## What a missing key means -/

/-- When a key is missing in a text, and when the text is unfit. -/
structure MissingKey (path : Bytes) (keys : List Bytes) (text : Bytes) : Prop where
  /-- A key is missing only where an object has been searched up to a closing bracket. -/
  missed (seen : Bytes) : find false path text = .error (.keyNotFound seen) →
    Missed none start keys text seen
  /-- What follows the bracket does not matter. -/
  settled (seen more : Bytes) : find false path text = .error (.keyNotFound seen) →
    find false path (text ++ more) = .error (.keyNotFound seen)
  /-- A text that ends before the bracket cannot be decoded. -/
  unsettled (seen more : Bytes) : find false path (text ++ more) = .error (.keyNotFound seen) →
    find false path text = .error (.keyNotFound seen)
      ∨ ∃ e, Undecodable e ∧ find false path text = .error e
  /-- Neither can one that ends before the last key is read. -/
  cutOff : CutOff keys text → ∃ e, Undecodable e ∧ find false path text = .error e
  /-- A compiler configuration that was asked for and is cut off before its directory is a
  failure. -/
  reported (d : Disk) (s : Sources) : path = outDirKeyPath → s.compilerFile ≠ [] →
    d.read s.compilerPath = .ok text → CutOff keys text →
    ∃ e, Undecodable e ∧ (s.load d).2 = some (.finding path s.compilerPath e)
  /-- One that names no directory, and is no failure either, misses a key. -/
  passedOver (d : Disk) (s : Sources) : path = outDirKeyPath → s.compilerFile ≠ [] →
    d.read s.compilerPath = .ok text → outDirIn d s.compilerPath = none → (s.load d).2 = none →
    ∃ seen, Missed none start keys text seen

/-- **When a key is missing.** -/
theorem missing_key_meaning (path : Bytes) (keys : List Bytes) (text : Bytes)
    (hkeys : keys? path = some keys) :
    MissingKey path keys text where
  missed seen h := find_missed hkeys h
  settled seen more h := find_settled hkeys h more
  unsettled seen more h := find_unsettled hkeys h
  cutOff h := find_cutOff hkeys h
  reported d s hpath hasked hread hcut := by
    subst hpath
    obtain ⟨e, he, hfind⟩ := find_cutOff hkeys hcut
    exact ⟨e, he, Sources.load_finding hasked hread hfind he.not_keyMissing⟩
  passedOver d s hpath hasked hread hnone hload := by
    subst hpath
    obtain ⟨seen, hfind⟩ := Sources.keyNotFound_of_passedOver hkeys hasked hread hnone hload
    exact ⟨seen, find_missed hkeys hfind⟩

/-- A disk that holds nothing but a compiler configuration. -/
def configured (text : Bytes) : Disk :=
  { tree := ⟨[([utf8 "c.json"], .file .newFile text)]⟩, cwd := [] }

/-- The sources that ask for it. -/
def asking : Sources := { workDir := utf8 "/", compilerFile := utf8 "c.json" }

/-- A compiler configuration that ends in the middle of a key. -/
def halfKey : Bytes := utf8 "\x7b\"compilerOptions\":\x7b\"out"

theorem missing_key_halfKey :
    keys? outDirKeyPath = some [utf8 "compilerOptions", utf8 "outDir"]
    ∧ CutOff [utf8 "compilerOptions", utf8 "outDir"] halfKey
    ∧ ∃ e, Undecodable e ∧ (asking.load (configured halfKey)).2
        = some (.finding outDirKeyPath (utf8 "c.json") e) := by
  have hkeys : keys? outDirKeyPath = some [utf8 "compilerOptions", utf8 "outDir"] := by decide
  have hcut : CutOff [utf8 "compilerOptions", utf8 "outDir"] halfKey :=
    ⟨utf8 "Dir\":\"o\"\x7d\x7d", ⟨utf8 ":\"o\"\x7d\x7d", [.object 1, .object 2]⟩, by cbv, by decide⟩
  have hpath : asking.compilerPath = utf8 "c.json" := by decide
  have hread : (configured halfKey).read asking.compilerPath = .ok halfKey := by cbv
  refine ⟨hkeys, hcut, ?_⟩
  rw [← hpath]
  exact (missing_key_meaning _ _ _ hkeys).reported _ _ rfl (by decide) hread hcut

/-- An object has a bracket of its own. -/
theorem Json.Spells.brace_mem {object : Bytes} {ms : List (Bytes × Value)}
    (h : Spells object (.object ms)) :
    125 ∈ object := by
  cases h with
  | object _ _ => simp

/-- A compiler configuration with a bracket of the wrong kind. -/
def crossedBracket : Bytes := utf8 "\x7b\"compilerOptions\":\x7b]"

/-- A key is also said to be missing where no object is complete, and the compiler configuration is
passed over. -/
theorem missing_key_crossed :
    find false outDirKeyPath crossedBracket = .error (.keyNotFound (utf8 ".compilerOptionsoutDir"))
    ∧ (∀ before object after ms, crossedBracket = before ++ (object ++ after) →
        ¬ Spells object (.object ms))
    ∧ asking.load (configured crossedBracket)
      = ({ Settings.initial with dir := Path.join asking.workDir defaultDir }, none) := by
  refine ⟨by cbv, ?_, by cbv⟩
  intro before object after ms htext hspells
  have hbrace : (125 : UInt8) ∈ crossedBracket := by
    rw [htext]
    exact List.mem_append_right _ (List.mem_append_left _ hspells.brace_mem)
  exact absurd hbrace (by decide)

end ImportLookup
