import Mathlib.Data.List.Forall2
import Scribe.Text.Utf8

/-!
# UTF-8 is decoded

`decodeParts` reads a byte sequence with a table of the bytes that may follow a first byte. The bytes
that the table admits are those of characters (`Code`), and the encoding of a character is such a
code. So `decode?` accepts exactly the bytes of texts, and gives the text back
(`decode?_eq_some_iff`).
-/

namespace Scribe.Text

/-! ### Codes -/

/-- The code of a character in one to four bytes. The first byte gives the bits that lead, and the
second one is bounded where the code would be too long, or no character. -/
inductive Code : Nat → List UInt8 → Prop where
  | one {n : Nat} : n < 128 → Code n [.ofNat n]
  | two {n m : Nat} : 2 ≤ n → n < 32 → m < 64 →
      Code (64 * n + m) [.ofNat (n + 192), .ofNat (m + 128)]
  | three {n m k : Nat} : n < 16 → m < 64 → k < 64 → (n = 0 → 32 ≤ m) → (n = 13 → m < 32) →
      Code (64 * (64 * n + m) + k) [.ofNat (n + 224), .ofNat (m + 128), .ofNat (k + 128)]
  | four {n m k l : Nat} :
      n < 5 → m < 64 → k < 64 → l < 64 → (n = 0 → 16 ≤ m) → (n = 4 → m < 16) →
      Code (64 * (64 * (64 * n + m) + k) + l)
        [.ofNat (n + 240), .ofNat (m + 128), .ofNat (k + 128), .ofNat (l + 128)]

/-- The bytes of the character with a number. -/
def encoded (v : Nat) : List UInt8 :=
  if v ≤ 127 then [.ofNat v]
  else if v ≤ 2047 then [.ofNat (v / 64 % 32 + 192), .ofNat (v % 64 + 128)]
  else if v ≤ 65535 then
    [.ofNat (v / 4096 % 16 + 224), .ofNat (v / 64 % 64 + 128), .ofNat (v % 64 + 128)]
  else
    [.ofNat (v / 262144 % 8 + 240), .ofNat (v / 4096 % 64 + 128), .ofNat (v / 64 % 64 + 128),
      .ofNat (v % 64 + 128)]

theorem utf8EncodeChar_eq (c : Char) : String.utf8EncodeChar c = encoded c.toNat := rfl

theorem code_encoded {v : Nat} (h : v.isValidChar) : Code v (encoded v) := by
  change v < 0xD800 ∨ 0xDFFF < v ∧ v < 0x110000 at h
  unfold encoded
  split
  · next hone => exact .one (Nat.lt_succ_of_le hone)
  · split
    · have hv : v = 64 * (v / 64 % 32) + v % 64 := by omega
      have hcode := Code.two (n := v / 64 % 32) (m := v % 64) (by omega) (by omega) (by omega)
      rwa [← hv] at hcode
    · split
      · have hv : v = 64 * (64 * (v / 4096 % 16) + v / 64 % 64) + v % 64 := by omega
        have hcode := Code.three (n := v / 4096 % 16) (m := v / 64 % 64) (k := v % 64)
          (by omega) (by omega) (by omega) (by omega) (by omega)
        rwa [← hv] at hcode
      · have hv : v = 64 * (64 * (64 * (v / 262144 % 8) + v / 4096 % 64) + v / 64 % 64) + v % 64 :=
          by omega
        have hcode := Code.four (n := v / 262144 % 8) (m := v / 4096 % 64) (k := v / 64 % 64)
          (l := v % 64) (by omega) (by omega) (by omega) (by omega) (by omega) (by omega)
        rwa [← hv] at hcode

theorem Code.isValidChar {v : Nat} {bytes : List UInt8} (h : Code v bytes) : v.isValidChar := by
  change v < 0xD800 ∨ 0xDFFF < v ∧ v < 0x110000
  cases h <;> omega

/-- A character has one code. -/
theorem Code.encoded_eq {v : Nat} {bytes : List UInt8} (h : Code v bytes) : encoded v = bytes := by
  unfold encoded
  cases h with
  | one hn => exact if_pos (Nat.le_of_lt_succ hn)
  | @two n m hlong hn hm =>
    have h₁ : (64 * n + m) / 64 % 32 = n := by omega
    have h₂ : (64 * n + m) % 64 = m := by omega
    rw [if_neg (by omega), if_pos (by omega), h₁, h₂]
  | @three n m k hn hm hk hlong hchar =>
    have h₁ : (64 * (64 * n + m) + k) / 4096 % 16 = n := by omega
    have h₂ : (64 * (64 * n + m) + k) / 64 % 64 = m := by omega
    have h₃ : (64 * (64 * n + m) + k) % 64 = k := by omega
    rw [if_neg (by omega), if_neg (by omega), if_pos (by omega), h₁, h₂, h₃]
  | @four n m k l hn hm hk hl hlong hchar =>
    have h₁ : (64 * (64 * (64 * n + m) + k) + l) / 262144 % 8 = n := by omega
    have h₂ : (64 * (64 * (64 * n + m) + k) + l) / 4096 % 64 = m := by omega
    have h₃ : (64 * (64 * (64 * n + m) + k) + l) / 64 % 64 = k := by omega
    have h₄ : (64 * (64 * (64 * n + m) + k) + l) % 64 = l := by omega
    rw [if_neg (by omega), if_neg (by omega), if_neg (by omega), h₁, h₂, h₃, h₄]

theorem Code.utf8EncodeChar_ofNat {v : Nat} {bytes : List UInt8} (h : Code v bytes) :
    String.utf8EncodeChar (.ofNat v) = bytes := by
  have hv : (Char.ofNat v).toNat = v := by
    unfold Char.ofNat
    rw [dif_pos h.isValidChar]
    rfl
  rw [utf8EncodeChar_eq, hv, h.encoded_eq]

/-! ### The table -/

theorem followers?_one : ∀ n < 128, followers? (.ofNat n) = some [] := by decide

theorem followers?_two :
    ∀ n < 32, 2 ≤ n → followers? (.ofNat (n + 192)) = some [(0x80, 0xBF)] := by decide

theorem followers?_three : ∀ n < 16, followers? (.ofNat (n + 224)) =
    some [(if n = 0 then 0xA0 else 0x80, if n = 13 then 0x9F else 0xBF), (0x80, 0xBF)] := by
  decide

theorem followers?_four : ∀ n < 5, followers? (.ofNat (n + 240)) =
    some [(if n = 0 then 0x90 else 0x80, if n = 4 then 0x8F else 0xBF), (0x80, 0xBF),
      (0x80, 0xBF)] := by
  decide

theorem followers?_tail : ∀ n < 66, followers? (.ofNat (n + 128)) = none := by decide

theorem followers?_beyond : ∀ n < 11, followers? (.ofNat (n + 245)) = none := by decide

/-- The first bytes, with the bits that they give to a character. -/
theorem first_cases {first : UInt8} {rs : List (UInt8 × UInt8)} (h : followers? first = some rs) :
    (∃ n < 128, first = .ofNat n) ∨ (∃ n < 32, 2 ≤ n ∧ first = .ofNat (n + 192)) ∨
      (∃ n < 16, first = .ofNat (n + 224)) ∨ ∃ n < 5, first = .ofNat (n + 240) := by
  have hbound : first.toNat < 256 := first.toNat_lt
  have hfirst : ∀ n, first.toNat = n → first = .ofNat n := by
    rintro n rfl
    exact UInt8.ofNat_toNat.symm
  -- The bounds are those of the table; between the first two there are only bytes that follow.
  by_cases h₁ : first.toNat < 128
  · exact .inl ⟨_, h₁, hfirst _ rfl⟩
  by_cases h₂ : first.toNat < 194
  · rw [hfirst (first.toNat - 128 + 128) (by omega), followers?_tail _ (by omega)] at h
    cases h
  by_cases h₃ : first.toNat < 224
  · exact .inr (.inl ⟨first.toNat - 192, by omega, by omega, hfirst _ (by omega)⟩)
  by_cases h₄ : first.toNat < 240
  · exact .inr (.inr (.inl ⟨first.toNat - 224, by omega, hfirst _ (by omega)⟩))
  by_cases h₅ : first.toNat < 245
  · exact .inr (.inr (.inr ⟨first.toNat - 240, by omega, hfirst _ (by omega)⟩))
  · rw [hfirst (first.toNat - 245 + 245) (by omega), followers?_beyond _ (by omega)] at h
    cases h

/-- Bytes that lie in ranges, one in each. -/
def Follow (rs : List (UInt8 × UInt8)) (rest : List UInt8) : Prop :=
  List.Forall₂ (fun r b => r.1 ≤ b ∧ b ≤ r.2) rs rest

theorem following_append {rs : List (UInt8 × UInt8)} {rest : List UInt8} (h : Follow rs rest)
    (bs : List UInt8) : following rs (rest ++ bs) = rs.length := by
  induction h with
  | nil => cases bs <;> rfl
  | @cons r b rs rest hb hrest ih =>
    rw [List.cons_append, following, if_pos (by simpa using hb), ih, List.length_cons]

theorem follow_of_following {rs : List (UInt8 × UInt8)} {bs : List UInt8}
    (h : following rs bs = rs.length) : ∃ rest behind, bs = rest ++ behind ∧ Follow rs rest := by
  induction rs generalizing bs with
  | nil => exact ⟨[], bs, rfl, .nil⟩
  | cons r rs ih =>
    cases bs with
    | nil => cases h
    | cons b bs =>
      rw [following] at h
      split at h
      · next hb =>
        obtain ⟨rest, behind, rfl, hrest⟩ := ih (Nat.succ.inj h)
        exact ⟨b :: rest, behind, rfl, .cons (by simpa using hb) hrest⟩
      · cases h

theorem decodeParts_append {first : UInt8} {rs : List (UInt8 × UInt8)} {rest : List UInt8}
    (hfirst : followers? first = some rs) (hrest : Follow rs rest) (bs : List UInt8) :
    decodeParts (first :: (rest ++ bs)) = some (charOfBytes first rest) :: decodeParts bs := by
  have hlength : rs.length = rest.length := hrest.length_eq
  rw [decodeParts, hfirst]
  dsimp only
  rw [following_append hrest, if_pos rfl, hlength, List.take_left, List.drop_left]

/-! ### Codes are what the table admits -/

theorem tail_mem :
    ∀ m < 64, 0x80 ≤ UInt8.ofNat (m + 128) ∧ UInt8.ofNat (m + 128) ≤ 0xBF := by
  decide

theorem exists_tail {b : UInt8} (h : 0x80 ≤ b) (h' : b ≤ 0xBF) :
    ∃ m < 64, b = .ofNat (m + 128) := by
  have hlow : 128 ≤ b.toNat := UInt8.le_iff_toNat_le.1 h
  have hhigh : b.toNat ≤ 191 := UInt8.le_iff_toNat_le.1 h'
  refine ⟨b.toNat - 128, by omega, ?_⟩
  rw [Nat.sub_add_cancel hlow, UInt8.ofNat_toNat]

theorem exists_second {b low high : UInt8} (h : low ≤ b ∧ b ≤ high) (hlow : 0x80 ≤ low)
    (hhigh : high ≤ 0xBF) : ∃ m < 64, b = .ofNat (m + 128) :=
  exists_tail (UInt8.le_trans hlow h.1) (UInt8.le_trans h.2 hhigh)

/-- The second byte of three, where the code would be too long or a surrogate. -/
theorem second_of_three (n : Nat) : ∀ m < 64,
    (((if n = 0 then 0xA0 else 0x80) ≤ UInt8.ofNat (m + 128) ∧
      UInt8.ofNat (m + 128) ≤ if n = 13 then 0x9F else 0xBF) ↔
    (n = 0 → 32 ≤ m) ∧ (n = 13 → m < 32)) := by
  by_cases hlong : n = 0
  · subst hlong
    decide
  · by_cases hchar : n = 13
    · subst hchar
      decide
    · simp only [hlong, hchar, if_false, false_implies, and_true, iff_true]
      exact tail_mem

/-- The second byte of four, where the code would be too long or too large. -/
theorem second_of_four (n : Nat) : ∀ m < 64,
    (((if n = 0 then 0x90 else 0x80) ≤ UInt8.ofNat (m + 128) ∧
      UInt8.ofNat (m + 128) ≤ if n = 4 then 0x8F else 0xBF) ↔
    (n = 0 → 16 ≤ m) ∧ (n = 4 → m < 16)) := by
  by_cases hlong : n = 0
  · subst hlong
    decide
  · by_cases hchar : n = 4
    · subst hchar
      decide
    · simp only [hlong, hchar, if_false, false_implies, and_true, iff_true]
      exact tail_mem

theorem charOfBytes_one {n : Nat} (hn : n < 128) : charOfBytes (.ofNat n) [] = .ofNat n := by
  unfold charOfBytes
  simp only [List.length_nil, List.foldl_nil, UInt8.toNat_ofNat']
  congr 1
  omega

theorem charOfBytes_two {n m : Nat} (hn : n < 32) (hm : m < 64) :
    charOfBytes (.ofNat (n + 192)) [.ofNat (m + 128)] = .ofNat (64 * n + m) := by
  unfold charOfBytes
  simp only [List.length_cons, List.length_nil, List.foldl_cons, List.foldl_nil,
    UInt8.toNat_ofNat']
  congr 1
  omega

theorem charOfBytes_three {n m k : Nat} (hn : n < 16) (hm : m < 64) (hk : k < 64) :
    charOfBytes (.ofNat (n + 224)) [.ofNat (m + 128), .ofNat (k + 128)] =
      .ofNat (64 * (64 * n + m) + k) := by
  unfold charOfBytes
  simp only [List.length_cons, List.length_nil, List.foldl_cons, List.foldl_nil,
    UInt8.toNat_ofNat']
  congr 1
  omega

theorem charOfBytes_four {n m k l : Nat} (hn : n < 5) (hm : m < 64) (hk : k < 64) (hl : l < 64) :
    charOfBytes (.ofNat (n + 240)) [.ofNat (m + 128), .ofNat (k + 128), .ofNat (l + 128)] =
      .ofNat (64 * (64 * (64 * n + m) + k) + l) := by
  unfold charOfBytes
  simp only [List.length_cons, List.length_nil, List.foldl_cons, List.foldl_nil,
    UInt8.toNat_ofNat']
  congr 1
  omega

theorem Code.decodeParts_append {v : Nat} {bytes : List UInt8} (h : Code v bytes)
    (bs : List UInt8) :
    decodeParts (bytes ++ bs) = some (.ofNat v) :: decodeParts bs := by
  cases h with
  | one hn =>
    rw [← charOfBytes_one hn]
    exact Text.decodeParts_append (followers?_one v hn) .nil bs
  | @two n m hlong hn hm =>
    rw [← charOfBytes_two hn hm]
    exact Text.decodeParts_append (followers?_two n hn hlong) (.cons (tail_mem m hm) .nil) bs
  | @three n m k hn hm hk hlong hchar =>
    have hsecond := (second_of_three n m hm).2 ⟨hlong, hchar⟩
    rw [← charOfBytes_three hn hm hk]
    exact Text.decodeParts_append (followers?_three n hn)
      (.cons hsecond (.cons (tail_mem k hk) .nil)) bs
  | @four n m k l hn hm hk hl hlong hchar =>
    have hsecond := (second_of_four n m hm).2 ⟨hlong, hchar⟩
    rw [← charOfBytes_four hn hm hk hl]
    exact Text.decodeParts_append (followers?_four n hn)
      (.cons hsecond (.cons (tail_mem k hk) (.cons (tail_mem l hl) .nil))) bs

theorem code_of_follow {first : UInt8} {rs : List (UInt8 × UInt8)} {rest : List UInt8}
    (hfirst : followers? first = some rs) (hrest : Follow rs rest) :
    ∃ v, Code v (first :: rest) := by
  rcases first_cases hfirst with ⟨n, hn, rfl⟩ | ⟨n, hn, hlong, rfl⟩ | ⟨n, hn, rfl⟩ | ⟨n, hn, rfl⟩
  · rw [followers?_one n hn] at hfirst
    cases hfirst
    cases hrest
    exact ⟨n, .one hn⟩
  · rw [followers?_two n hn hlong] at hfirst
    cases hfirst
    rcases hrest with _ | ⟨⟨hlow, hhigh⟩, _ | _⟩
    obtain ⟨m, hm, rfl⟩ := exists_tail hlow hhigh
    exact ⟨_, .two hlong hn hm⟩
  · rw [followers?_three n hn] at hfirst
    cases hfirst
    rcases hrest with _ | ⟨hsecond, _ | ⟨⟨hlow, hhigh⟩, _ | _⟩⟩
    obtain ⟨m, hm, rfl⟩ := exists_second hsecond (by dsimp only; split <;> decide)
      (by dsimp only; split <;> decide)
    obtain ⟨k, hk, rfl⟩ := exists_tail hlow hhigh
    obtain ⟨hlong, hchar⟩ := (second_of_three n m hm).1 hsecond
    exact ⟨_, .three hn hm hk hlong hchar⟩
  · rw [followers?_four n hn] at hfirst
    cases hfirst
    rcases hrest with _ | ⟨hsecond, _ | ⟨⟨hlow, hhigh⟩, _ | ⟨⟨hlow', hhigh'⟩, _ | _⟩⟩⟩
    obtain ⟨m, hm, rfl⟩ := exists_second hsecond (by dsimp only; split <;> decide)
      (by dsimp only; split <;> decide)
    obtain ⟨k, hk, rfl⟩ := exists_tail hlow hhigh
    obtain ⟨l, hl, rfl⟩ := exists_tail hlow' hhigh'
    obtain ⟨hlong, hlarge⟩ := (second_of_four n m hm).1 hsecond
    exact ⟨_, .four hn hm hk hl hlong hlarge⟩

/-! ### Texts -/

theorem decodeParts_bytesOf (cs : List Char) : decodeParts (bytesOf cs) = cs.map some := by
  induction cs with
  | nil => rw [bytesOf, List.flatMap_nil, decodeParts, List.map_nil]
  | cons c cs ih =>
    have hcode : Code c.toNat (String.utf8EncodeChar c) := code_encoded c.valid
    rw [bytesOf, List.flatMap_cons, hcode.decodeParts_append, Char.ofNat_toNat, List.map_cons]
    exact congrArg _ ih

/-- What stands in front of the first part that is a character. -/
theorem exists_code_of_decodeParts {bs : List UInt8} {c : Char} {parts : List (Option Char)}
    (h : decodeParts bs = some c :: parts) :
    ∃ v bytes behind, bs = bytes ++ behind ∧ Code v bytes ∧ c = .ofNat v ∧
      decodeParts behind = parts := by
  cases bs with
  | nil =>
    rw [decodeParts] at h
    cases h
  | cons b bs =>
    have hparts := h
    rw [decodeParts] at h
    split at h
    · cases h
    · next rs hfirst =>
      dsimp only at h
      by_cases hrest : following rs bs = rs.length
      · obtain ⟨rest, behind, rfl, hfollow⟩ := follow_of_following hrest
        obtain ⟨v, hcode⟩ := code_of_follow hfirst hfollow
        rw [← List.cons_append, hcode.decodeParts_append] at hparts
        cases hparts
        exact ⟨v, b :: rest, behind, rfl, hcode, rfl, rfl⟩
      · rw [if_neg hrest] at h
        cases h

theorem bytesOf_of_decodeParts {bs : List UInt8} {cs : List Char}
    (h : decodeParts bs = cs.map some) : bytesOf cs = bs := by
  induction cs generalizing bs with
  | nil =>
    cases bs with
    | nil => rfl
    | cons b bs =>
      rw [decodeParts] at h
      split at h <;> cases h
  | cons c cs ih =>
    obtain ⟨v, bytes, behind, rfl, hcode, rfl, hbehind⟩ := exists_code_of_decodeParts h
    have hrest := ih hbehind
    unfold bytesOf at hrest ⊢
    rw [List.flatMap_cons, hcode.utf8EncodeChar_ofNat, hrest]

theorem mapM_id_eq_some_iff {parts : List (Option Char)} {cs : List Char} :
    parts.mapM id = some cs ↔ parts = cs.map some := by
  induction parts generalizing cs with
  | nil => cases cs <;> simp
  | cons part parts ih =>
    rw [List.mapM_cons]
    cases part with
    | none => cases cs <;> simp
    | some c => cases cs <;> simp [Option.bind_eq_some_iff, ih, and_comm]

/-- **Decoding inverts the encoding**, and accepts nothing else. -/
theorem decode?_eq_some_iff {bs : List UInt8} {text : String} :
    decode? bs = some text ↔ bytesOf text.toList = bs := by
  unfold decode?
  rw [Option.map_eq_some_iff]
  constructor
  · rintro ⟨cs, hcs, rfl⟩
    rw [String.toList_ofList]
    exact bytesOf_of_decodeParts (mapM_id_eq_some_iff.1 hcs)
  · rintro rfl
    exact ⟨text.toList, mapM_id_eq_some_iff.2 (decodeParts_bytesOf _), String.ofList_toList⟩

/-- Bytes of a text. -/
def IsUtf8 (bytes : List UInt8) : Prop := ∃ text : String, bytesOf text.toList = bytes

theorem isUtf8_iff {bytes : List UInt8} : IsUtf8 bytes ↔ (decode? bytes).isSome = true := by
  rw [Option.isSome_iff_exists]
  exact exists_congr fun text => decode?_eq_some_iff.symm

instance : DecidablePred IsUtf8 := fun _ => decidable_of_iff _ isUtf8_iff.symm

end Scribe.Text
