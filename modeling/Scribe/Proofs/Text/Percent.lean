import Scribe.Proofs.Text.Utf8
import Scribe.Text.Percent

/-!
# Percent-encoding is resolved

What the encoder writes is resolved to the bytes of the text, unless the text itself looks encoded:
an encoder that leaves percent signs and digits alone can be undone exactly where the text holds no
percent sign with two hexadecimal digits behind it (`percentDecode?_percentEncode_iff`). And it is
as short as can be: whatever is resolved to a text, and holds no character that the encoder writes
with percent signs, is no shorter than what the encoder makes of it (`length_percentEncode_le`).
-/

namespace Scribe.Text

variable {p : Char → Bool}

/-! ### Characters -/

/-- Whether a character stands for a digit of base 16. -/
def isHexDigit (c : Char) : Bool :=
  c.isDigit || ('a' ≤ c && c ≤ 'f') || ('A' ≤ c && c ≤ 'F')

theorem lt_of_isHexDigit {c : Char} (h : isHexDigit c = true) : c.toNat < 0x80 := by
  simp only [isHexDigit, Char.isDigit, Bool.or_eq_true, Bool.and_eq_true, decide_eq_true_eq,
    Char.le_def, UInt32.le_iff_toNat_le, ge_iff_le] at h
  have h9 : '9'.val.toNat = 57 := rfl
  have hf : 'f'.val.toNat = 102 := rfl
  have hF : 'F'.val.toNat = 70 := rfl
  change c.val.toNat < 0x80
  omega

/-- Whether a text holds a percent sign with two hexadecimal digits behind it. -/
def holdsCode : List Char → Bool
  | '%' :: a :: b :: rest => isHexDigit a && isHexDigit b || holdsCode (a :: b :: rest)
  | _ :: rest => holdsCode rest
  | [] => false

/-- What stands for a character in an encoded text. -/
def encodeChar (p : Char → Bool) (c : Char) : List Char :=
  if 0x80 ≤ c.toNat || p c then (String.utf8EncodeChar c).flatMap percentByte else [c]

theorem toList_percentEncode (p : Char → Bool) (s : String) :
    (percentEncode p s).toList = s.toList.flatMap (encodeChar p) :=
  String.toList_ofList

/-- Whether a character stands for itself in an encoded text. -/
def Kept (p : Char → Bool) (c : Char) : Prop := c.toNat < 0x80 ∧ p c = false

theorem encodeChar_of_kept {c : Char} (h : Kept p c) : encodeChar p c = [c] := by
  rw [encodeChar, if_neg]
  simpa [h.2] using h.1

theorem encodeChar_of_not_kept {c : Char} (h : ¬Kept p c) :
    encodeChar p c = (String.utf8EncodeChar c).flatMap percentByte := by
  rw [encodeChar, if_pos]
  rw [Kept, not_and, Bool.not_eq_false] at h
  by_cases hc : c.toNat < 0x80
  · simp [h hc]
  · simp [Nat.le_of_not_lt hc]

instance (p : Char → Bool) : DecidablePred (Kept p) := fun _ => inferInstanceAs (Decidable (_ ∧ _))

theorem utf8EncodeChar_of_lt {c : Char} (h : c.toNat < 0x80) :
    String.utf8EncodeChar c = [.ofNat c.toNat] := by
  rw [utf8EncodeChar_eq, encoded, if_pos (Nat.le_of_lt_succ h)]

theorem bytesOf_cons (c : Char) (cs : List Char) :
    bytesOf (c :: cs) = String.utf8EncodeChar c ++ bytesOf cs :=
  List.flatMap_cons

theorem bytesOf_append (cs ds : List Char) : bytesOf (cs ++ ds) = bytesOf cs ++ bytesOf ds :=
  List.flatMap_append

theorem bytesOf_cons_of_lt {c : Char} (h : c.toNat < 0x80) (cs : List Char) :
    bytesOf (c :: cs) = .ofNat c.toNat :: bytesOf cs := by
  rw [bytesOf_cons, utf8EncodeChar_of_lt h, List.singleton_append]

/-- What holds of the characters with the first 128 numbers holds of ASCII. -/
theorem of_ascii {P : Char → Prop} (h : ∀ n < 0x80, P (.ofNat n)) {c : Char}
    (hc : c.toNat < 0x80) : P c := by
  have hchar := h c.toNat hc
  rwa [Char.ofNat_toNat] at hchar

theorem isSome_hexValue? {c : Char} (h : c.toNat < 0x80) :
    (hexValue? (.ofNat c.toNat)).isSome = isHexDigit c :=
  of_ascii (P := fun c => (hexValue? (.ofNat c.toNat)).isSome = isHexDigit c) (by decide) h

/-! ### Bytes -/

theorem percentDecodeBytes_cons {b : UInt8} (h : b ≠ 37) (rest : List UInt8) :
    percentDecodeBytes (b :: rest) = b :: percentDecodeBytes rest := by
  rw [percentDecodeBytes]
  exact fun _ _ _ hb _ => h hb

/-- A percent sign with two digits behind it is resolved. -/
theorem percentDecodeBytes_code {a b x y : UInt8} (ha : hexValue? a = some x)
    (hb : hexValue? b = some y) (rest : List UInt8) :
    percentDecodeBytes (37 :: a :: b :: rest) = (16 * x + y) :: percentDecodeBytes rest := by
  rw [percentDecodeBytes, ha, hb]

/-- A percent sign stands for itself if two digits do not follow. -/
theorem percentDecodeBytes_percent {rest : List UInt8}
    (h : ∀ a b more, rest = a :: b :: more →
      (hexValue? a).isSome = false ∨ (hexValue? b).isSome = false) :
    percentDecodeBytes (37 :: rest) = 37 :: percentDecodeBytes rest := by
  match rest with
  | [] => rfl
  | [_] => rfl
  | a :: b :: more =>
    rw [percentDecodeBytes]
    split
    · next x y ha hb =>
      rcases h a b more rfl with hnone | hnone
      · rw [ha] at hnone
        cases hnone
      · rw [hb] at hnone
        cases hnone
    · rfl

/-- The encoded form of a byte is resolved. -/
theorem percentDecodeBytes_percentByte (b : UInt8) (rest : List UInt8) :
    percentDecodeBytes (bytesOf (percentByte b) ++ rest) = b :: percentDecodeBytes rest := by
  have hdigit : ∀ n < 16, (hexDigit n).toNat < 0x80 ∧
      hexValue? (.ofNat (hexDigit n).toNat) = some (.ofNat n) := by decide
  have hb : b.toNat < 256 := b.toNat_lt
  obtain ⟨hhigh, hhigh'⟩ := hdigit (b.toNat / 16) (by omega)
  obtain ⟨hlow, hlow'⟩ := hdigit (b.toNat % 16) (by omega)
  rw [percentByte, bytesOf_cons_of_lt (by decide), bytesOf_cons_of_lt hhigh,
    bytesOf_cons_of_lt hlow]
  change percentDecodeBytes (37 :: _ :: _ :: rest) = _
  rw [percentDecodeBytes_code hhigh' hlow']
  congr 1
  apply UInt8.toNat_inj.1
  simp only [UInt8.toNat_add, UInt8.toNat_mul, UInt8.toNat_ofNat']
  change (16 * (b.toNat / 16 % 2 ^ 8) % 2 ^ 8 + b.toNat % 16 % 2 ^ 8) % 2 ^ 8 = b.toNat
  omega

theorem percentDecodeBytes_percentBytes (bs rest : List UInt8) :
    percentDecodeBytes (bytesOf (bs.flatMap percentByte) ++ rest) =
      bs ++ percentDecodeBytes rest := by
  induction bs with
  | nil => rfl
  | cons b bs ih =>
    rw [List.flatMap_cons, bytesOf_append, List.append_assoc, percentDecodeBytes_percentByte, ih,
      List.cons_append]

/-! ### What the encoder writes -/

/-- An encoder that leaves percent signs and digits alone. -/
structure LeavesCodes (p : Char → Bool) : Prop where
  percent : Kept p '%'
  digit : ∀ c, isHexDigit c = true → Kept p c

/-- The bytes of an encoded text. -/
def encodedBytes (p : Char → Bool) (cs : List Char) : List UInt8 :=
  bytesOf (cs.flatMap (encodeChar p))

theorem encodedBytes_cons_of_kept {c : Char} (h : Kept p c) (cs : List Char) :
    encodedBytes p (c :: cs) = .ofNat c.toNat :: encodedBytes p cs := by
  rw [encodedBytes, List.flatMap_cons, encodeChar_of_kept h, List.singleton_append,
    bytesOf_cons_of_lt h.1]
  rfl

theorem encodedBytes_cons_of_not_kept {c : Char} (h : ¬Kept p c) (cs : List Char) :
    encodedBytes p (c :: cs) =
      bytesOf ((String.utf8EncodeChar c).flatMap percentByte) ++ encodedBytes p cs := by
  rw [encodedBytes, List.flatMap_cons, encodeChar_of_not_kept h, bytesOf_append]
  rfl

/-- What stands for a character is the character itself, or is made of percent signs and digits. -/
theorem mem_encodeChar {c d : Char} (h : d ∈ encodeChar p c) :
    (d = c ∧ Kept p c) ∨ d = '%' ∨ isHexDigit d = true := by
  by_cases hc : Kept p c
  · rw [encodeChar_of_kept hc, List.mem_singleton] at h
    exact .inl ⟨h, hc⟩
  · have hdigit : ∀ n < 16, isHexDigit (hexDigit n) = true := by decide
    rw [encodeChar_of_not_kept hc] at h
    obtain ⟨b, -, hb⟩ := List.mem_flatMap.1 h
    have hlt : b.toNat < 256 := b.toNat_lt
    simp only [percentByte, List.mem_cons, List.not_mem_nil, or_false] at hb
    rcases hb with rfl | rfl | rfl
    · exact .inr (.inl rfl)
    · exact .inr (.inr (hdigit _ (by omega)))
    · exact .inr (.inr (hdigit _ (by omega)))

theorem LeavesCodes.kept_of_mem (hp : LeavesCodes p) {c d : Char} (h : d ∈ encodeChar p c) :
    Kept p d := by
  rcases mem_encodeChar h with ⟨rfl, hd⟩ | rfl | hd
  · exact hd
  · exact hp.percent
  · exact hp.digit d hd

/-- Only a percent sign can be read as something else than itself. -/
theorem percentDecodeBytes_encodedBytes_cons {c : Char} (h : c ≠ '%') (cs : List Char) :
    percentDecodeBytes (encodedBytes p (c :: cs)) =
      String.utf8EncodeChar c ++ percentDecodeBytes (encodedBytes p cs) := by
  by_cases hc : Kept p c
  · rw [encodedBytes_cons_of_kept hc, utf8EncodeChar_of_lt hc.1, percentDecodeBytes_cons]
    · rfl
    · intro hbyte
      have hnat := congrArg UInt8.toNat hbyte
      have hlt := hc.1
      simp only [UInt8.toNat_ofNat'] at hnat
      refine h (Char.toNat_inj.1 ?_)
      change c.toNat = 37
      change c.toNat % 2 ^ 8 = 37 at hnat
      omega
  · rw [encodedBytes_cons_of_not_kept hc, percentDecodeBytes_percentBytes]

theorem exists_cons_utf8EncodeChar (c : Char) : ∃ b bs, String.utf8EncodeChar c = b :: bs :=
  List.exists_cons_of_ne_nil
    (List.ne_nil_of_length_pos (String.length_utf8EncodeChar c ▸ Char.utf8Size_pos c))

theorem length_encodeChar_pos (c : Char) : 0 < (encodeChar p c).length := by
  by_cases hc : Kept p c
  · rw [encodeChar_of_kept hc]
    exact Nat.one_pos
  · obtain ⟨b, bs, hbs⟩ := exists_cons_utf8EncodeChar c
    rw [encodeChar_of_not_kept hc, hbs, List.flatMap_cons, percentByte]
    exact Nat.succ_pos _

/-- A digit in front of encoded bytes stands in front of the text. -/
theorem exists_digit_of_encodedBytes {cs : List Char} {x : UInt8} {more : List UInt8}
    (h : encodedBytes p cs = x :: more) (hx : (hexValue? x).isSome = true) :
    ∃ c rest, cs = c :: rest ∧ isHexDigit c = true ∧ encodedBytes p rest = more := by
  cases cs with
  | nil => cases h
  | cons c rest =>
    by_cases hc : Kept p c
    · rw [encodedBytes_cons_of_kept hc] at h
      obtain ⟨rfl, hmore⟩ := List.cons.inj h
      rw [isSome_hexValue? hc.1] at hx
      exact ⟨c, rest, rfl, hx, hmore⟩
    · -- Otherwise the bytes start with a percent sign.
      obtain ⟨b, bs, hbs⟩ := exists_cons_utf8EncodeChar c
      rw [encodedBytes_cons_of_not_kept hc, hbs, List.flatMap_cons, percentByte, List.cons_append,
        bytesOf_cons_of_lt (by decide)] at h
      obtain ⟨rfl, -⟩ := List.cons.inj h
      cases hx

/-- Two digits behind a percent sign. -/
def CodeAt (cs : List Char) : Prop :=
  ∃ a b rest, cs = a :: b :: rest ∧ isHexDigit a = true ∧ isHexDigit b = true

theorem holdsCode_cons {c : Char} (h : c ≠ '%') (cs : List Char) :
    holdsCode (c :: cs) = holdsCode cs := by
  rw [holdsCode]
  exact fun _ _ _ hc _ => h hc

theorem holdsCode_percent {cs : List Char} (h : ¬CodeAt cs) :
    holdsCode ('%' :: cs) = holdsCode cs := by
  match cs with
  | [] => rfl
  | [_] => rfl
  | a :: b :: rest =>
    rw [holdsCode, Bool.or_eq_right_iff_imp]
    intro hab
    rw [Bool.and_eq_true] at hab
    exact absurd ⟨a, b, rest, rfl, hab⟩ h

/-- A percent sign without digits behind it stands for itself. -/
theorem percentDecodeBytes_encodedBytes_percent (hp : LeavesCodes p) {cs : List Char}
    (h : ¬CodeAt cs) : percentDecodeBytes (encodedBytes p ('%' :: cs)) =
      37 :: percentDecodeBytes (encodedBytes p cs) := by
  rw [encodedBytes_cons_of_kept hp.percent]
  refine percentDecodeBytes_percent fun x y more hmore => ?_
  by_contra hxy
  rw [not_or, Bool.not_eq_false, Bool.not_eq_false] at hxy
  obtain ⟨a, rest, rfl, ha, hrest⟩ := exists_digit_of_encodedBytes hmore hxy.1
  obtain ⟨b, rest, rfl, hb, -⟩ := exists_digit_of_encodedBytes hrest hxy.2
  exact h ⟨a, b, rest, rfl, ha, hb⟩

/-- A code in the text is taken for one that the encoder has written. -/
theorem percentDecodeBytes_encodedBytes_code (hp : LeavesCodes p) {a b : Char}
    (ha : isHexDigit a = true) (hb : isHexDigit b = true) (rest : List Char) :
    ∃ v, percentDecodeBytes (encodedBytes p ('%' :: a :: b :: rest)) =
      v :: percentDecodeBytes (encodedBytes p rest) := by
  obtain ⟨x, hx⟩ := Option.isSome_iff_exists.1 ((isSome_hexValue? (hp.digit a ha).1).trans ha)
  obtain ⟨y, hy⟩ := Option.isSome_iff_exists.1 ((isSome_hexValue? (hp.digit b hb).1).trans hb)
  rw [encodedBytes_cons_of_kept hp.percent, encodedBytes_cons_of_kept (hp.digit a ha),
    encodedBytes_cons_of_kept (hp.digit b hb)]
  exact ⟨_, percentDecodeBytes_code hx hy _⟩

/-- **What the encoder writes is resolved to the bytes of the text**, or to fewer if the text itself
holds a code. -/
theorem percentDecodeBytes_encodedBytes (hp : LeavesCodes p) (cs : List Char) :
    (holdsCode cs = false ∧ percentDecodeBytes (encodedBytes p cs) = bytesOf cs) ∨
      (holdsCode cs = true ∧
        (percentDecodeBytes (encodedBytes p cs)).length < (bytesOf cs).length) := by
  match cs with
  | [] => exact .inl ⟨rfl, rfl⟩
  | c :: cs =>
    have hrest := percentDecodeBytes_encodedBytes hp cs
    by_cases hc : c = '%'
    · subst hc
      by_cases hcode : CodeAt cs
      · obtain ⟨a, b, rest, rfl, ha, hb⟩ := hcode
        obtain ⟨v, hv⟩ := percentDecodeBytes_encodedBytes_code hp ha hb rest
        -- Three bytes have become one, and the rest has become no longer.
        have hle : (percentDecodeBytes (encodedBytes p rest)).length ≤ (bytesOf rest).length := by
          rcases percentDecodeBytes_encodedBytes hp rest with ⟨-, heq⟩ | ⟨-, hlt⟩
          · exact Nat.le_of_eq (congrArg _ heq)
          · exact Nat.le_of_lt hlt
        refine .inr ⟨by rw [holdsCode, ha, hb]; rfl, ?_⟩
        rw [hv, bytesOf_cons_of_lt hp.percent.1, bytesOf_cons_of_lt (hp.digit a ha).1,
          bytesOf_cons_of_lt (hp.digit b hb).1]
        simp only [List.length_cons]
        omega
      · rw [holdsCode_percent hcode, percentDecodeBytes_encodedBytes_percent hp hcode,
          bytesOf_cons_of_lt hp.percent.1]
        exact hrest.imp (fun h => ⟨h.1, congrArg _ h.2⟩) fun h => ⟨h.1, Nat.succ_lt_succ h.2⟩
    · rw [holdsCode_cons hc, percentDecodeBytes_encodedBytes_cons hc, bytesOf_cons]
      refine hrest.imp (fun h => ⟨h.1, congrArg _ h.2⟩) fun h => ⟨h.1, ?_⟩
      simpa using h.2
termination_by cs.length

theorem percentDecode?_eq_some_iff {s t : String} :
    percentDecode? t = some s ↔ bytesOf s.toList = percentDecodeBytes (bytesOf t.toList) :=
  decode?_eq_some_iff

/-- **An encoded text is resolved to the text itself exactly if that holds no code.** -/
theorem percentDecode?_percentEncode_iff (hp : LeavesCodes p) {s : String} :
    percentDecode? (percentEncode p s) = some s ↔ holdsCode s.toList = false := by
  rw [percentDecode?_eq_some_iff, toList_percentEncode]
  rcases percentDecodeBytes_encodedBytes hp s.toList with ⟨hholds, heq⟩ | ⟨hholds, hlt⟩
  · exact iff_of_true heq.symm hholds
  · refine iff_of_false (fun heq => ?_) (by rw [hholds]; exact Bool.noConfusion)
    rw [heq] at hlt
    exact Nat.lt_irrefl _ hlt

/-! ### How long an encoded text is -/

/-- What stands for a byte in an encoded text. -/
def encodeByte (p : Char → Bool) (b : UInt8) : List Char :=
  if 0x80 ≤ b.toNat || p (.ofNat b.toNat) then percentByte b else [.ofNat b.toNat]

theorem length_encodeByte_le (p : Char → Bool) (b : UInt8) : (encodeByte p b).length ≤ 3 := by
  rw [encodeByte]
  split
  · exact Nat.le_refl 3
  · exact Nat.le_add_right 1 2

/-- Beyond ASCII no byte is one of ASCII. -/
theorem le_of_mem_utf8EncodeChar {c : Char} (hc : 0x80 ≤ c.toNat) {b : UInt8}
    (hb : b ∈ String.utf8EncodeChar c) : 0x80 ≤ b.toNat := by
  rw [utf8EncodeChar_eq, encoded, if_neg (by omega)] at hb
  split at hb
  · simp only [List.mem_cons, List.not_mem_nil, or_false] at hb
    rcases hb with rfl | rfl <;> rw [UInt8.toNat_ofNat'] <;> omega
  · split at hb
    · simp only [List.mem_cons, List.not_mem_nil, or_false] at hb
      rcases hb with rfl | rfl | rfl <;> rw [UInt8.toNat_ofNat'] <;> omega
    · simp only [List.mem_cons, List.not_mem_nil, or_false] at hb
      rcases hb with rfl | rfl | rfl | rfl <;> rw [UInt8.toNat_ofNat'] <;> omega

theorem toNat_ofNat_of_lt {c : Char} (h : c.toNat < 0x80) :
    (UInt8.ofNat c.toNat).toNat = c.toNat := by
  rw [UInt8.toNat_ofNat']
  omega

theorem encodeByte_of_kept {c : Char} (h : Kept p c) : encodeByte p (.ofNat c.toNat) = [c] := by
  rw [encodeByte, toNat_ofNat_of_lt h.1, Char.ofNat_toNat, if_neg]
  simpa [h.2] using h.1

theorem encodeByte_of_not_kept {c : Char} (h : ¬Kept p c) {b : UInt8}
    (hb : b ∈ String.utf8EncodeChar c) : encodeByte p b = percentByte b := by
  rw [encodeByte, if_pos]
  by_cases hc : c.toNat < 0x80
  · rw [utf8EncodeChar_of_lt hc, List.mem_singleton] at hb
    rw [Kept, not_and, Bool.not_eq_false] at h
    rw [hb, toNat_ofNat_of_lt hc, Char.ofNat_toNat, h hc, Bool.or_true]
  · simp [le_of_mem_utf8EncodeChar (Nat.le_of_not_lt hc) hb]

theorem encodeChar_eq (c : Char) :
    encodeChar p c = (String.utf8EncodeChar c).flatMap (encodeByte p) := by
  by_cases hc : Kept p c
  · rw [encodeChar_of_kept hc, utf8EncodeChar_of_lt hc.1, List.flatMap_singleton,
      encodeByte_of_kept hc]
  · rw [encodeChar_of_not_kept hc]
    exact List.flatMap_congr fun b hb => (encodeByte_of_not_kept hc hb).symm

/-- A text is encoded byte by byte. -/
theorem flatMap_encodeChar (cs : List Char) :
    cs.flatMap (encodeChar p) = (bytesOf cs).flatMap (encodeByte p) := by
  rw [bytesOf, List.flatMap_assoc]
  exact List.flatMap_congr fun c _ => encodeChar_eq c

/-- Bytes that stand for themselves are resolved to such as are written no longer. -/
theorem length_encoded_percentDecodeBytes_le (bs : List UInt8)
    (h : ∀ b ∈ bs, (encodeByte p b).length = 1) :
    ((percentDecodeBytes bs).flatMap (encodeByte p)).length ≤ bs.length := by
  fun_induction percentDecodeBytes bs with
  | case1 a b rest x y ha hb ih =>
    have hrest := ih fun d hd => h d (by simp [hd])
    have hbyte := length_encodeByte_le p (16 * x + y)
    simp only [List.flatMap_cons, List.length_append, List.length_cons]
    omega
  | case2 a b rest hcode ih =>
    have hrest := ih fun d hd => h d (.tail _ hd)
    rw [List.flatMap_cons, List.length_append, h _ (.head _), List.length_cons]
    omega
  | case3 b rest hcode ih =>
    have hrest := ih fun d hd => h d (.tail _ hd)
    rw [List.flatMap_cons, List.length_append, h _ (.head _), List.length_cons]
    omega
  | case4 => exact Nat.le_refl 0

theorem bytesOf_of_kept {cs : List Char} (h : ∀ c ∈ cs, Kept p c) :
    bytesOf cs = cs.map fun c => .ofNat c.toNat := by
  induction cs with
  | nil => rfl
  | cons c cs ih =>
    rw [bytesOf_cons_of_lt (h c (.head _)).1, ih fun d hd => h d (.tail _ hd), List.map_cons]

/-- **Nothing shorter is resolved to a text than what the encoder makes of it**, unless it holds
characters that the encoder does not leave. -/
theorem length_percentEncode_le {s t : String} (h : percentDecode? t = some s)
    (ht : ∀ c ∈ t.toList, Kept p c) :
    (percentEncode p s).toList.length ≤ t.toList.length := by
  have hle := length_encoded_percentDecodeBytes_le (p := p) (bytesOf t.toList) fun b hb => by
    rw [bytesOf_of_kept ht] at hb
    obtain ⟨c, hc, rfl⟩ := List.mem_map.1 hb
    rw [encodeByte_of_kept (ht c hc), List.length_singleton]
  rwa [← percentDecode?_eq_some_iff.1 h, ← flatMap_encodeChar, ← toList_percentEncode,
    bytesOf_of_kept ht, List.length_map] at hle

end Scribe.Text
