import ImportLookup.Proofs.MissingKey

/-!
# How much of a text a string needs

A string is complete at its closing quote, and so is a key. A search that finds its
key has therefore no interest in what follows the key, and a descent none in what
follows the last one (`Ends`). Only on the way does the reader look one byte ahead,
behind numbers that it skips, and that byte is there since the key is still to come.

So a string that a key path leads to is found in the text up to its closing quote,
whatever comes then, and it is found in no text that ends earlier.
-/

namespace ImportLookup

namespace Json

namespace KeyPath

/-! ## Exchanging the rest of a text -/

/-- The run takes some text from the first reader and ends with the second one, whatever is left
there. -/
def Ends (run : Reader → Except Failure Reader) (r r' : Reader) : Prop :=
  ∃ used, used ≠ [] ∧ r.rest = used ++ r'.rest
    ∧ ∀ rest, run ⟨used ++ rest, r.frames⟩ = .ok ⟨rest, r'.frames⟩

namespace Ends

variable {run run' : Reader → Except Failure Reader} {r r₁ r' : Reader} {t : Token}

/-- A run that is over with a string. -/
theorem of_string {s : Bytes} (hnext : r.next? = some (.scalar (.string s), r'))
    (hrun : ∀ {x y : Reader}, x.next? = some (.scalar (.string s), y) → run x = .ok y) :
    Ends run r r' := by
  obtain ⟨used, hrest, hinstead⟩ := Reader.string_instead hnext
  refine ⟨used, ?_, hrest, fun rest => hrun (hinstead rest)⟩
  rintro rfl
  have hshorter := Reader.next?_length hnext
  rw [hrest] at hshorter
  exact absurd hshorter (Nat.lt_irrefl _)

/-- A run that goes on behind a token. -/
theorem after_token (hnext : r.next? = some (t, r₁))
    (hrun : ∀ {x y : Reader}, x.next? = some (t, y) → run x = run' y) (h : Ends run' r₁ r') :
    Ends run r r' := by
  obtain ⟨front, hfront, hinstead⟩ := Reader.next?_instead hnext
  obtain ⟨used, hused, hrest, hends⟩ := h
  refine ⟨front ++ used, List.append_ne_nil_of_right_ne_nil front hused, ?_, fun rest => ?_⟩
  · rw [hfront, hrest, List.append_assoc]
  · -- more is to be read, and so the byte behind the token stays
    have hhead : (used ++ rest).head? = r₁.rest.head? := by
      obtain ⟨c, tail, rfl⟩ := List.exists_cons_of_ne_nil hused
      rw [hrest]
      rfl
    rw [List.append_assoc, hrun (hinstead (used ++ rest) fun _ => hhead)]
    exact hends rest

/-- A run in two parts. -/
theorem trans (h : Ends run r r₁) (h' : Ends run' r₁ r') :
    Ends (fun x => match run x with
      | .ok y => run' y
      | .error e => .error e) r r' := by
  obtain ⟨front, hfront, hrest, hends⟩ := h
  obtain ⟨used, -, hrest', hends'⟩ := h'
  refine ⟨front ++ used, List.append_ne_nil_of_left_ne_nil hfront used, ?_, fun rest => ?_⟩
  · rw [hrest, hrest', List.append_assoc]
  · rw [List.append_assoc]
    dsimp only
    rw [hends (used ++ rest)]
    exact hends' rest

end Ends

/-- **What follows a key that is found does not matter.** -/
theorem Search.ends {seen key : Bytes} {depth count : Nat} {r r' : Reader}
    (h : Search seen key depth count r (.ok r')) :
    Ends (searchMembers false seen key depth count) r r' := by
  generalize hresult : Except.ok r' = result at h
  induction h with
  | ended _ => exact nomatch hresult
  | unreadable _ _ => exact nomatch hresult
  | found hnext hodd =>
      obtain rfl := Except.ok.inj hresult
      exact Ends.of_string hnext fun hx => search_step_found hx hodd
  | beside hnext hopen hother _ ih =>
      exact Ends.after_token hnext (fun hx => search_step_beside hx hopen hother) (ih hresult)
  | inside hnext _ ih => exact Ends.after_token hnext search_step_inside (ih hresult)

theorem enter_ends {seen key : Bytes} {r r' : Reader} (h : enter false seen key r = .ok r') :
    Ends (enter false seen key) r r' := by
  have henter : ∀ {x y : Reader}, x.next? = some (.openObject, y) →
      enter false seen key x = searchMembers false (seen ++ key) key 0 0 y :=
        fun hx => by rw [enter, hx]
  cases hnext : r.next? with
  | none =>
      rw [enter, hnext] at h
      exact absurd h (by simp)
  | some front =>
      obtain ⟨t, r₁⟩ := front
      cases t with
      | openObject =>
          rw [henter hnext] at h
          have hsearch := search_run (seen ++ key) key 0 0 r₁
          rw [h] at hsearch
          exact Ends.after_token hnext henter hsearch.ends
      | _ =>
          rw [enter, hnext] at h
          exact absurd h (by simp)

/-- **What follows the last key does not matter.** -/
theorem follow_ends {seen key : Bytes} {keys : List Bytes} {r r' : Reader}
    (h : follow seen (key :: keys) r = .ok r') : Ends (follow seen (key :: keys)) r r' := by
  induction keys generalizing seen key r with
  | nil =>
      rw [follow] at h
      cases henter : enter false seen key r with
      | error e => rw [henter] at h; exact absurd h (by simp)
      | ok r₁ =>
          rw [henter] at h
          obtain rfl := Except.ok.inj h
          obtain ⟨used, hused, hrest, hends⟩ := enter_ends henter
          refine ⟨used, hused, hrest, fun rest => ?_⟩
          rw [follow, hends]
          rfl
  | cons key' keys ih =>
      rw [follow] at h
      cases henter : enter false seen key r with
      | error e => rw [henter] at h; exact absurd h (by simp)
      | ok r₁ =>
          rw [henter] at h
          exact (enter_ends henter).trans (ih h)

/-- Behind a key there is a colon. -/
theorem separatorDue_follow {seen key : Bytes} {keys : List Bytes} {r r' : Reader}
    (h : follow seen (key :: keys) r = .ok r') :
    Reader.separatorDue r'.frames 0 = some Reader.colon := by
  induction keys generalizing seen key r with
  | nil =>
      rw [follow] at h
      rcases enter_cases seen key r with henter | henter | ⟨gap, text, -, -, hsearched⟩
      · rw [henter] at h; exact absurd h (by simp)
      · rw [henter] at h; exact absurd h (by simp)
      · generalize enter false seen key r = result at h hsearched
        cases hsearched with
        | unreadable => exact absurd h (by simp)
        | inVain _ => exact absurd h (by simp)
        | found _ _ =>
            obtain rfl := Except.ok.inj h
            exact Part.separatorDue_frame _ _
  | cons key' keys ih =>
      rw [follow] at h
      cases henter : enter false seen key r with
      | error e => rw [henter] at h; exact absurd h (by simp)
      | ok r₁ =>
          rw [henter] at h
          exact ih h

/-! ## The text up to a string -/

/-- The beginning of a text up to the closing quote of the string that a key path leads to. -/
structure UpToString (path text s front : Bytes) : Prop where
  /-- It is a beginning of the text. -/
  isPrefix : front <+: text
  /-- The keys lead to a spelling of the string, and its closing quote is the last byte. -/
  closed : ∃ keys frames gap body, keys? path = some keys
    ∧ follow start keys (Reader.ofText front) = .ok ⟨gap ++ 34 :: (body ++ [34]), frames⟩
    ∧ Gap (some Reader.colon) gap ∧ ScalarSpelling (34 :: (body ++ [34])) (.string s)
  /-- The string is found whatever follows. -/
  enough (more : Bytes) : find false path (front ++ more) = .ok (.string s)
  /-- A text that ends earlier cannot be decoded. -/
  needed (shorter : Bytes) : shorter <+: front → shorter ≠ front →
    ∃ e, Undecodable e ∧ find false path shorter = .error e

theorem scalarNext_ok {seen : Bytes} {r : Reader} {s : Scalar} (h : scalarNext seen r = .ok s) :
    ∃ r', r.next? = some (.scalar s, r') := by
  unfold scalarNext descend at h
  split at h
  · exact nomatch h
  · rename_i s' r' hnext
    obtain rfl := Except.ok.inj h
    exact ⟨r', hnext⟩
  · exact nomatch h

/-- A string that is cut off cannot be decoded. -/
theorem scalarNext_cut {seen s more : Bytes} {r : Reader} {frames : List Frame}
    (h : (r.followedBy more).next? = some (.scalar (.string s), ⟨[], frames⟩)) (hmore : more ≠ []) :
    scalarNext seen r = .error (.unreadableValue seen .malformedJson) := by
  cases hnext : r.next? with
  | none => rw [scalarNext, descend, hnext]
  | some front =>
      obtain ⟨t, r₁⟩ := front
      rcases Reader.next?_followedBy hnext more with hwhole | ⟨-, -, hnumber⟩
      · -- it would end before the text does
        obtain ⟨-, hreader⟩ := Prod.mk.inj (Option.some.inj (hwhole.symm.trans h))
        have hempty : r₁.rest ++ more = [] := congrArg Reader.rest hreader
        exact absurd (List.append_eq_nil_iff.mp hempty).2 hmore
      · obtain ⟨bits, hbits⟩ := hnumber _ _ h
        exact absurd hbits (by simp)

/-- A text that ends before the string does cannot be decoded. -/
theorem find_shorter {path s shorter more : Bytes} {keys : List Bytes} {r : Reader}
    {frames : List Frame} (hkeys : keys? path = some keys)
    (hfollow : follow start keys (Reader.ofText (shorter ++ more)) = .ok r)
    (hnext : r.next? = some (.scalar (.string s), ⟨[], frames⟩)) (hmore : more ≠ []) :
    ∃ e, Undecodable e ∧ find false path shorter = .error e := by
  have hcut := follow_afterCut start keys (Reader.ofText shorter) more
  have hwhole : follow start keys ((Reader.ofText shorter).followedBy more) = .ok r := hfollow
  rw [hwhole] at hcut
  rw [find_eq hkeys]
  generalize follow start keys (Reader.ofText shorter) = result at hcut
  cases hcut with
  | undecodable he => exact ⟨_, he, rfl⟩
  | found => exact ⟨_, Undecodable.value, scalarNext_cut hnext hmore⟩

/-- A string is read from a gap and a spelling between quotes. -/
theorem quoted_of_next {r r' : Reader} {s : Bytes} (h : r.next? = some (.scalar (.string s), r')) :
    ∃ gap body, Gap (Reader.separatorDue r.frames 0) gap
      ∧ ScalarSpelling (34 :: (body ++ [34])) (.string s)
      ∧ r.rest = gap ++ 34 :: (body ++ [34]) ++ r'.rest := by
  cases Reader.takes_of_next h with
  | @scalar gap spelling rest _ hgap hrest hspelling _ =>
      cases hspelling with
      | @string body pieces hbody =>
          exact ⟨gap, body, hgap, ScalarSpelling.string hbody, by rw [hrest, List.append_assoc]⟩

/-- **A string that is found depends on the text up to its closing quote**, and on all of it. -/
theorem string_found_early (path text s : Bytes) (h : find false path text = .ok (.string s)) :
    ∃ front, UpToString path text s front := by
  cases hkeys : keys? path with
  | none => rw [find, hkeys] at h; exact absurd h (by simp)
  | some keys =>
      obtain ⟨key, keys, rfl⟩ := List.exists_cons_of_ne_nil (path_of_keys hkeys).1
      rw [find_eq hkeys] at h
      cases hfollow : follow start (key :: keys) (Reader.ofText text) with
      | error e => rw [hfollow] at h; exact absurd h (by simp)
      | ok r =>
          rw [hfollow] at h
          obtain ⟨r', hnext⟩ := scalarNext_ok h
          obtain ⟨lead, -, htext, hends⟩ := follow_ends hfollow
          obtain ⟨gap, body, hgap, hspelling, hrest⟩ := quoted_of_next hnext
          obtain ⟨quoted, hquoted, hinstead⟩ := Reader.string_instead hnext
          obtain rfl : gap ++ 34 :: (body ++ [34]) = quoted :=
            List.append_cancel_right (hrest.symm.trans hquoted)
          have hfront := hends (gap ++ 34 :: (body ++ [34]))
          refine ⟨lead ++ (gap ++ 34 :: (body ++ [34])), ?_, ?_,
            fun more => ?_, fun shorter hfront' hne => ?_⟩
          · exact ⟨r'.rest, by rw [List.append_assoc, ← hrest]; exact htext.symm⟩
          · rw [separatorDue_follow hfollow] at hgap
            exact ⟨_, r.frames, gap, body, hkeys, hfront, hgap, hspelling⟩
          · have hmore : follow start (key :: keys)
              (Reader.ofText (lead ++ (gap ++ 34 :: (body ++ [34])) ++ more))
                = .ok ⟨gap ++ 34 :: (body ++ [34]) ++ more, r.frames⟩ := by
              rw [List.append_assoc]
              exact hends (gap ++ 34 :: (body ++ [34]) ++ more)
            rw [find_eq hkeys, hmore]
            dsimp only
            rw [scalarNext, descend, hinstead more]
          · obtain ⟨more, hwhole⟩ := hfront'
            have hmore : more ≠ [] := by
              rintro rfl
              exact hne (by rw [← hwhole, List.append_nil])
            have hlast := hinstead []
            rw [List.append_nil] at hlast
            exact find_shorter hkeys (by rw [hwhole]; exact hfront) hlast hmore

/-- A text that breaks off in a comment, behind a string with a quote in it. -/
def brokenOff : Bytes := utf8 "\x7b\"n\":[10,\"a\"],\"a\" : \"o\\\"\" // and"

theorem string_found_brokenOff :
    find false (utf8 ".a") brokenOff = .ok (.string (utf8 "o\""))
    ∧ ∃ front, UpToString (utf8 ".a") brokenOff (utf8 "o\"") front := by
  have hfind : find false (utf8 ".a") brokenOff = .ok (.string (utf8 "o\"")) := by cbv
  exact ⟨hfind, string_found_early _ _ _ hfind⟩

end KeyPath

end Json

end ImportLookup
