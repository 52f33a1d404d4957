import ImportLookup.Json.KeyPath

/-!
# Finding a key without a parser

`searchMembers` is a flat loop over tokens: a depth says how far it is inside
something that it skips, and the parity of a counter tells a key from a value. Here
the loop is compared with what it stands for. A text is a `Value`, whose objects
keep their members in order and may repeat a key, and `lookup` takes the first
member with the key that is wanted, at every key of the path.

Two facts about the loop carry all of it. Inside something, the tokens of a value
are passed over and change neither depth nor counter (`search_inside`). In the
object itself a value counts as one, so that the counter is even again before the
next key (`search_value`).
-/

namespace ImportLookup

namespace Json

/-! ## Values -/

/-- What a JSON text stands for. A key may occur in several members of an object. -/
inductive Value where
  | scalar (s : Scalar)
  | array (elements : List Value)
  | object (members : List (Bytes × Value))

namespace Value

mutual

/-- The tokens of a value, in the order of the text. -/
def tokens : Value → List Token
  | scalar s => [.scalar s]
  | array elements => .openArray :: (tokensEach elements ++ [.closeArray])
  | object members => .openObject :: (tokensMembers members ++ [.closeObject])

def tokensEach : List Value → List Token
  | [] => []
  | v :: vs => v.tokens ++ tokensEach vs

def tokensMembers : List (Bytes × Value) → List Token
  | [] => []
  | (key, v) :: members => .scalar (.string key) :: (v.tokens ++ tokensMembers members)

end

/-- What a key path leads to: the first member counts at every key, and what is reached in the end
has to be a scalar. `seen` is what a failure names. -/
def lookup (seen : Bytes) : List Bytes → Value → Except Failure Scalar
  | [], .scalar s => .ok s
  | [], _ => .error (.notScalar seen)
  | key :: keys, .object members =>
    match members.lookup key with
    | some v => v.lookup (seen ++ key) keys
    | none => .error (.keyNotFound (seen ++ key))
  | _ :: _, _ => .error (.notObject seen)

end Value

/-! ## Tokens of a reader -/

namespace Token

/-- Whether an object or array ends here. -/
def isClosing : Token → Bool
  | closeObject | closeArray => true
  | _ => false

end Token

namespace Reader

/-- The first reader gives these tokens one after the other, and then is the second one. -/
inductive Yields : Reader → List Token → Reader → Prop where
  | nil {r : Reader} : Yields r [] r
  | cons {r r' r'' : Reader} {t : Token} {ts : List Token} :
      r.next? = some (t, r') → Yields r' ts r'' → Yields r (t :: ts) r''

theorem Yields.append {r r' r'' : Reader} {ts us : List Token} (h : Yields r ts r')
    (h' : Yields r' us r'') :
    Yields r (ts ++ us) r'' := by
  induction h with
  | nil => exact h'
  | cons hnext _ ih => exact Yields.cons hnext (ih h')

theorem yields_cons {r r'' : Reader} {t : Token} {ts : List Token} (h : Yields r (t :: ts) r'') :
    ∃ r', r.next? = some (t, r') ∧ Yields r' ts r'' := by
  cases h with
  | cons hnext hrest => exact ⟨_, hnext, hrest⟩

theorem yields_append {r r'' : Reader} {ts us : List Token} (h : Yields r (ts ++ us) r'') :
    ∃ r', Yields r ts r' ∧ Yields r' us r'' := by
  induction ts generalizing r with
  | nil => exact ⟨r, Yields.nil, h⟩
  | cons t ts ih =>
      obtain ⟨r₁, hnext, hrest⟩ := yields_cons h
      obtain ⟨r', hts, hus⟩ := ih hrest
      exact ⟨r', Yields.cons hnext hts, hus⟩

/-- The tokens between two brackets. -/
theorem yields_bracketed {r r' : Reader} {opening closing : Token} {inner : List Token}
    (h : Yields r (opening :: (inner ++ [closing])) r') :
    ∃ r₁ r₂, r.next? = some (opening, r₁) ∧ Yields r₁ inner r₂ ∧ r₂.next? = some (closing, r') := by
  obtain ⟨r₁, hopen, hrest⟩ := yields_cons h
  obtain ⟨r₂, hinner, hlast⟩ := yields_append hrest
  obtain ⟨r₃, hclose, hnil⟩ := yields_cons hlast
  cases hnil
  exact ⟨r₁, r₂, hopen, hinner, hclose⟩

theorem opened?_token {r r' : Reader} {frame : Frame} {token t : Token} {rest : Bytes}
    (h : r.opened? frame token rest = some (t, r')) : t = token := by
  unfold opened? at h
  split at h
  · exact nomatch h
  · exact (Prod.mk.inj (Option.some.inj h)).1.symm

theorem word?_token {r r' : Reader} {word text : Bytes} {s : Scalar} {t : Token}
    (h : r.word? word s text = some (t, r')) : t = .scalar s := by
  unfold word? at h
  split at h
  · exact nomatch h
  split at h
  · exact (Prod.mk.inj (Option.some.inj h)).1.symm
  · exact nomatch h

theorem numeral?_token {r r' : Reader} {text : Bytes} {t : Token}
    (h : r.numeral? text = some (t, r')) :
    ∃ bits, t = .scalar (.number bits) := by
  unfold numeral? at h
  split at h
  · exact nomatch h
  split at h
  · split at h
    · exact ⟨_, (Prod.mk.inj (Option.some.inj h)).1.symm⟩
    · exact nomatch h
  · exact nomatch h

/-- **`more` foresees the next token**: it is false exactly before one that closes something. -/
theorem more_of_next {r r' : Reader} {t : Token} (h : r.next? = some (t, r')) :
    r.more = !t.isClosing := by
  unfold more
  unfold next? at h
  cases hpeek : r.peek? with
  | none => rw [hpeek] at h; exact nomatch h
  | some front =>
      obtain ⟨c, rest⟩ := front
      rw [hpeek] at h
      dsimp only at h ⊢
      -- the first byte decides both what the token is and whether it closes
      split at h
      · rw [opened?_token h]; decide
      · rw [opened?_token h]; decide
      · split at h
        · split at h
          · rw [← (Prod.mk.inj (Option.some.inj h)).1]; decide
          · exact nomatch h
        · exact nomatch h
      · split at h
        · rw [← (Prod.mk.inj (Option.some.inj h)).1]; decide
        · exact nomatch h
      · split at h
        · rw [← (Prod.mk.inj (Option.some.inj h)).1]; rfl
        · exact nomatch h
      · rw [word?_token h]; decide
      · rw [word?_token h]; decide
      · rw [word?_token h]; decide
      · rename_i hclose hclose' _ _ _ _
        obtain ⟨bits, rfl⟩ := numeral?_token h
        have hopen : isClosing c = false := by
          unfold isClosing
          rw [Bool.or_eq_false_iff]
          exact ⟨decide_eq_false hclose, decide_eq_false hclose'⟩
        rw [hopen]
        rfl

end Reader

namespace KeyPath

open Reader (Yields yields_cons yields_append yields_bracketed more_of_next)

/-! ## One turn of the loop -/

section Turns

variable {seen key : Bytes} {depth count : Nat} {r r' : Reader}

/-- What the loop does with a token, and with the reader behind it. -/
def turn (seen key : Bytes) (depth count : Nat) (r' : Reader) : Token → Except Failure Reader
  | .openObject | .openArray =>
    searchMembers false seen key (depth + 1) (if depth = 0 then count + 1 else count) r'
  | .closeObject | .closeArray => searchMembers false seen key (depth - 1) count r'
  | .scalar s =>
    if 0 < depth then searchMembers false seen key depth count r'
    else if s = .string key && (count + 1) % 2 = 1 then .ok r'
    else searchMembers false seen key depth (count + 1) r'

/-- Inside something, and before any token but a closing one, the loop takes a turn. -/
theorem search_next {t : Token} (hnext : r.next? = some (t, r'))
    (hgo : 0 < depth ∨ t.isClosing = false) :
    searchMembers false seen key depth count r = turn seen key depth count r' t := by
  have hmore : ¬ (decide (depth = 0) && !r.more) = true := by
    rw [more_of_next hnext]
    rcases hgo with hdepth | hopen
    · have : depth ≠ 0 := by omega
      simp [this]
    · simp [hopen]
  rw [searchMembers, if_neg hmore, if_neg (by simp)]
  split
  · rename_i hnone
    rw [hnone] at hnext
    cases hnext
  · rename_i token rest hsome
    rw [hnext] at hsome
    obtain ⟨rfl, rfl⟩ := Prod.mk.inj (Option.some.inj hsome)
    cases t <;> rfl

/-- The object ends without the key. -/
theorem search_ended {canceled : Bool} (hmore : r.more = false) :
    searchMembers canceled seen key 0 count r = .error (.keyNotFound seen) := by
  rw [searchMembers, hmore]
  rfl

theorem search_end {t : Token} (hnext : r.next? = some (t, r')) (hclose : t.isClosing = true) :
    searchMembers false seen key 0 count r = .error (.keyNotFound seen) := by
  refine search_ended ?_
  rw [more_of_next hnext, hclose]
  rfl

/-- The loop goes on inside something, and in the object itself as long as there seems to be
more. -/
theorem search_goes_on (hmore : depth = 0 → r.more = true) :
    ¬ (decide (depth = 0) && !r.more) = true := by
  by_cases hdepth : depth = 0
  · simp [hmore hdepth]
  · simp [hdepth]

theorem search_canceled (hmore : depth = 0 → r.more = true) :
    searchMembers true seen key depth count r = .error (.gaveUp seen .canceled) := by
  rw [searchMembers, if_neg (search_goes_on hmore), if_pos rfl]

theorem search_unreadable (hnext : r.next? = none) (hmore : depth = 0 → r.more = true) :
    searchMembers false seen key depth count r
      = .error (.unreadableObject seen .malformedJson) := by
  rw [searchMembers, if_neg (search_goes_on hmore), if_neg (by simp)]
  split
  · rfl
  · rename_i hsome
    cases hnext.symm.trans hsome

end Turns

/-! ## Passing over a value -/

section Skipping

variable {seen key : Bytes}

mutual

/-- **Inside something, a value is passed over.** -/
theorem search_inside (depth count : Nat) : ∀ (v : Value) {r r' : Reader}, Yields r v.tokens r' →
    searchMembers false seen key (depth + 1) count r
      = searchMembers false seen key (depth + 1) count r'
  | .scalar s, r, r', h => by
      obtain ⟨r₁, hnext, hnil⟩ := yields_cons h
      cases hnil
      rw [search_next hnext (Or.inl (Nat.succ_pos _)), turn, if_pos (Nat.succ_pos _)]
  | .array elements, r, r', h => by
      obtain ⟨r₁, r₂, hnext, heach, hnext'⟩ := yields_bracketed h
      rw [search_next hnext (Or.inl (Nat.succ_pos _)), turn]
      rw [if_neg (Nat.succ_ne_zero _), search_each (depth + 1) count elements heach,
        search_next hnext' (Or.inl (Nat.succ_pos _))]
      rfl
  | .object members, r, r', h => by
      obtain ⟨r₁, r₂, hnext, heach, hnext'⟩ := yields_bracketed h
      rw [search_next hnext (Or.inl (Nat.succ_pos _)), turn]
      rw [if_neg (Nat.succ_ne_zero _), search_members (depth + 1) count members heach,
        search_next hnext' (Or.inl (Nat.succ_pos _))]
      rfl

theorem search_each (depth count : Nat) : ∀ (vs : List Value) {r r' : Reader},
    Yields r (Value.tokensEach vs) r' →
    searchMembers false seen key (depth + 1) count r
      = searchMembers false seen key (depth + 1) count r'
  | [], r, r', h => by
      cases h
      rfl
  | v :: vs, r, r', h => by
      obtain ⟨r₁, hv, hvs⟩ := yields_append h
      rw [search_inside depth count v hv, search_each depth count vs hvs]

theorem search_members (depth count : Nat) : ∀ (members : List (Bytes × Value)) {r r' : Reader},
    Yields r (Value.tokensMembers members) r' →
    searchMembers false seen key (depth + 1) count r
      = searchMembers false seen key (depth + 1) count r'
  | [], r, r', h => by
      cases h
      rfl
  | (name, v) :: members, r, r', h => by
      obtain ⟨r₁, hnext, hrest⟩ := yields_cons h
      obtain ⟨r₂, hv, hmembers⟩ := yields_append hrest
      rw [search_next hnext (Or.inl (Nat.succ_pos _)), turn]
      rw [if_pos (Nat.succ_pos _), search_inside depth count v hv,
        search_members depth count members hmembers]

end

/-- **In the object itself, a value counts as one**, and a string that is a value is not taken for a
key. -/
theorem search_value {count : Nat} (hodd : count % 2 = 1) {v : Value} {r r' : Reader}
    (h : Yields r v.tokens r') :
    searchMembers false seen key 0 count r = searchMembers false seen key 0 (count + 1) r' := by
  have heven : ¬ (count + 1) % 2 = 1 := by omega
  cases v with
  | scalar s =>
      obtain ⟨r₁, hnext, hnil⟩ := yields_cons h
      cases hnil
      rw [search_next hnext (Or.inr rfl), turn]
      rw [if_neg (Nat.lt_irrefl 0), if_neg (by simp [heven])]
  | array elements =>
      obtain ⟨r₁, r₂, hnext, heach, hnext'⟩ := yields_bracketed h
      rw [search_next hnext (Or.inr rfl), turn]
      rw [if_pos rfl, search_each 0 (count + 1) elements heach,
        search_next hnext' (Or.inl (Nat.succ_pos _))]
      rfl
  | object members =>
      obtain ⟨r₁, r₂, hnext, heach, hnext'⟩ := yields_bracketed h
      rw [search_next hnext (Or.inr rfl), turn]
      rw [if_pos rfl, search_members 0 (count + 1) members heach,
        search_next hnext' (Or.inl (Nat.succ_pos _))]
      rfl

end Skipping

/-! ## The search for a key -/

/-- Where the search for a key ends: at the value of the first member with that key, or at the end
of the object. -/
theorem search_eq_lookup {seen key : Bytes} {members : List (Bytes × Value)} {count : Nat}
    (heven : count % 2 = 0) {r r' : Reader}
    (h : Yields r (Value.tokensMembers members ++ [.closeObject]) r') :
    match members.lookup key with
    | some v => ∃ r₁ r₂, searchMembers false seen key 0 count r = .ok r₁ ∧ Yields r₁ v.tokens r₂
    | none => searchMembers false seen key 0 count r = .error (.keyNotFound seen) := by
  induction members generalizing count r with
  | nil =>
      obtain ⟨r₁, hnext, _⟩ := yields_cons h
      exact search_end hnext rfl
  | cons member members ih =>
      obtain ⟨name, v⟩ := member
      obtain ⟨r₁, hnext, hrest⟩ := yields_cons h
      rw [List.append_eq, List.append_assoc] at hrest
      obtain ⟨r₂, hv, hmembers⟩ := yields_append hrest
      have hodd : (count + 1) % 2 = 1 := by omega
      have hturn : searchMembers false seen key 0 count r
          = turn seen key 0 count r₁ (.scalar (.string name)) :=
        search_next hnext (Or.inr rfl)
      rw [turn, if_neg (Nat.lt_irrefl 0)] at hturn
      by_cases hkey : name = key
      · -- the first member with the key: the search ends before its value
        rw [if_pos (by simp [hkey, hodd])] at hturn
        rw [hkey, List.lookup_cons_self]
        exact ⟨r₁, r₂, hturn, hv⟩
      · have hne : (key == name) = false := by simpa using Ne.symm hkey
        rw [if_neg (by simp [hkey]), search_value hodd hv] at hturn
        rw [List.lookup_cons, hne, hturn]
        exact ih (by omega) hmembers

/-- **What the descent along the keys gives is what `lookup` gives.** -/
theorem descend_eq_lookup {keys : List Bytes} {seen : Bytes} {v : Value} {r r' : Reader}
    (h : Yields r v.tokens r') : descend false seen keys r = v.lookup seen keys := by
  induction keys generalizing seen v r r' with
  | nil =>
      cases v with
      | scalar s =>
          obtain ⟨r₁, hnext, _⟩ := yields_cons h
          rw [descend, hnext]
          rfl
      | array elements =>
          obtain ⟨r₁, hnext, _⟩ := yields_cons h
          rw [descend, hnext]
          rfl
      | object members =>
          obtain ⟨r₁, hnext, _⟩ := yields_cons h
          rw [descend, hnext]
          rfl
  | cons key keys ih =>
      rw [descend]
      unfold enter
      cases v with
      | scalar s =>
          obtain ⟨r₁, hnext, _⟩ := yields_cons h
          rw [hnext]
          rfl
      | array elements =>
          obtain ⟨r₁, hnext, _⟩ := yields_cons h
          rw [hnext]
          rfl
      | object members =>
          obtain ⟨r₁, hnext, hrest⟩ := yields_cons h
          rw [hnext]
          dsimp only
          have hsearch := @search_eq_lookup (seen ++ key) key members 0 rfl _ _ hrest
          rw [Value.lookup]
          cases hfound : members.lookup key with
          | none =>
              rw [hfound] at hsearch
              rw [hsearch]
          | some v =>
              rw [hfound] at hsearch
              obtain ⟨r₂, r₃, hok, hv⟩ := hsearch
              rw [hok]
              exact ih hv

end KeyPath

end Json

end ImportLookup
