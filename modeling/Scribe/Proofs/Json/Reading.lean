import Scribe.Json.Reader
import Scribe.Proofs.Json.Token

/-!
# Reading back compact values

What is written in compact form is read back (`Value.parse_compact`):

    Value.parse v.compact = .ok v.sorted

for every value whose numbers are integers of sixty-four bits and whose brackets do not nest too
deep. The members of the objects come back sorted, which is how a value is read. The proof follows
the structure of the value; for each of its parts it says what the reader makes of the written part
with any text behind it, and that a fuel of twice the length of the part is enough.
-/

namespace Scribe.Json

namespace Value

/-! ### Readable values -/

mutual

/-- Whether a value can be read back where `depth` levels are still free: its numbers are integers
of sixty-four bits, and its brackets do not nest too deep. -/
def readable (depth : Nat) : Value → Bool
  | .null | .bool _ | .string _ => true
  | .number (.integer i) => -0x8000000000000000 ≤ i && i ≤ 0xFFFFFFFFFFFFFFFF
  | .number (.double _) => false
  | .array items => 1 < depth && readableItems (depth - 1) items
  | .object members => 1 < depth && readableMembers (depth - 1) members

/-- Whether the items of an array can be read back. -/
def readableItems (depth : Nat) : List Value → Bool
  | [] => true
  | v :: rest => readable depth v && readableItems depth rest

/-- Whether the members of an object can be read back. -/
def readableMembers (depth : Nat) : List (String × Value) → Bool
  | [] => true
  | (_, v) :: rest => readable depth v && readableMembers depth rest

end

/-! ### Compact text -/

/-- What stands in front of an item or a member: a comma, unless it is the first. -/
def separator (first : Bool) : List Char := if first then [] else [',']

/-- The written items of an array, from the first one on or from a later one. -/
def itemsText (first : Bool) : List Value → List Char
  | [] => []
  | v :: rest => separator first ++ v.compact.toList ++ itemsText false rest

/-- The written form of a member. -/
def memberText (name : String) (v : Value) : List Char :=
  '"' :: (name.toList.flatMap escapeChar ++ '"' :: ':' :: v.compact.toList)

/-- The written members of an object, from the first one on or from a later one. -/
def membersText (first : Bool) : List (String × Value) → List Char
  | [] => []
  | (name, v) :: rest => separator first ++ memberText name v ++ membersText false rest

theorem toList_array (items : List Value) :
    (Value.array items).compact.toList = '[' :: (itemsText true items ++ [']']) := by
  have hitems : ∀ (items : List Value),
      (",".intercalate (compactItems items)).toList = itemsText true items := by
    intro items
    cases items with
    | nil => rfl
    | cons v rest =>
      induction rest generalizing v with
      | nil => simp [compactItems, itemsText, separator]
      | cons w rest ih =>
        rw [compactItems, compactItems, String.intercalate_cons_cons, String.toList_append,
          String.toList_append, ← compactItems, ih]
        simp [itemsText, separator]
  rw [compact, String.toList_append, String.toList_append, hitems]
  rfl

theorem toList_object (members : List (String × Value)) :
    (Value.object members).compact.toList = '\x7b' :: (membersText true members ++ ['\x7d']) := by
  have hmembers : ∀ (members : List (String × Value)),
      (",".intercalate (compactMembers members)).toList = membersText true members := by
    intro members
    cases members with
    | nil => rfl
    | cons m rest =>
      induction rest generalizing m with
      | nil => simp [compactMembers, membersText, memberText, separator, toList_quote]
      | cons m' rest ih =>
        obtain ⟨name, v⟩ := m
        obtain ⟨name', v'⟩ := m'
        rw [compactMembers, compactMembers, String.intercalate_cons_cons, String.toList_append,
          String.toList_append, ← compactMembers, ih]
        simp [membersText, memberText, separator, toList_quote]
  rw [compact, String.toList_append, String.toList_append, hmembers]
  rfl

theorem toList_number_nonneg (n : Nat) :
    (Value.number (.integer n)).compact.toList = Nat.toDigits 10 n := by
  simp [compact, Number.toText, Int.repr_eq_if, Nat.toList_repr]

theorem toList_number_neg (n : Nat) :
    (Value.number (.integer (Int.negSucc n))).compact.toList = '-' :: Nat.toDigits 10 (n + 1) := by
  simp [compact, Number.toText, Int.repr, Nat.toList_repr]

end Value

/-! ### What stands between values -/

/-- Where no blank stands, the reader looks at the next character. -/
theorem peek_cons {c : Char} (hc : isSpace c = false) (cs : List Char) :
    peek (c :: cs) = .ok (some c, c :: cs) := by
  rw [peek, List.dropWhile_cons_of_neg (by rw [hc]; exact Bool.false_ne_true)]
  rfl

/-- The first digit of a number. -/
theorem toDigits_cons (n : Nat) :
    ∃ c cs, Nat.toDigits 10 n = c :: cs ∧ c.isDigit = true := by
  have hall : ∀ c ∈ Nat.toDigits 10 n, c.isDigit = true := fun c hc =>
    Nat.isDigit_of_mem_toDigits (by decide) (by decide) hc
  have hlen := Nat.length_toDigits_pos (b := 10) (n := n)
  obtain ⟨c, cs, hcs⟩ := List.exists_cons_of_length_pos hlen
  exact ⟨c, cs, hcs, hall c (hcs ▸ List.mem_cons_self)⟩

theorem isSpace_of_isDigit {c : Char} (hc : c.isDigit = true) : isSpace c = false := by
  cases hspace : isSpace c with
  | false => rfl
  | true =>
    simp only [isSpace, Bool.or_eq_true, beq_iff_eq] at hspace
    rcases hspace with ((rfl | rfl) | rfl) | rfl <;> cases hc

/-- A value starts with no blank, and with no bracket that closes an array. -/
theorem compact_cons {depth : Nat} {v : Value} (h : v.readable depth = true) :
    ∃ c cs, v.compact.toList = c :: cs ∧ isSpace c = false ∧ c ≠ ']' := by
  cases v with
  | null => exact ⟨'n', _, rfl, rfl, by decide⟩
  | bool b => cases b <;> exact ⟨_, _, rfl, rfl, by decide⟩
  | string s => exact ⟨'"', _, toList_quote s, rfl, by decide⟩
  | array items => exact ⟨'[', _, Value.toList_array items, rfl, by decide⟩
  | object members => exact ⟨'\x7b', _, Value.toList_object members, rfl, by decide⟩
  | number n =>
    cases n with
    | double bits => cases h
    | integer i =>
      cases i with
      | ofNat n =>
        obtain ⟨c, cs, hcs, hc⟩ := toDigits_cons n
        rw [Int.ofNat_eq_natCast, Value.toList_number_nonneg]
        refine ⟨c, cs, hcs, isSpace_of_isDigit hc, ?_⟩
        rintro rfl
        cases hc
      | negSucc n => exact ⟨'-', _, Value.toList_number_neg n, rfl, by decide⟩

/-! ### Steps of the reader -/

theorem moreItems_separator (first : Bool) {c : Char} (hc : isSpace c = false) (hne : c ≠ ']')
    (cs : List Char) :
    moreItems first (Value.separator first ++ c :: cs) = .ok (true, c :: cs) := by
  cases first with
  | true =>
    change moreItems true (c :: cs) = _
    rw [moreItems, bind_of_ok (peek_cons hc cs)]
    simp only [if_true]
    rfl
  | false =>
    have hdrop : drop1 (',' :: c :: cs) = .ok ((), c :: cs) := rfl
    change moreItems false (',' :: c :: cs) = _
    rw [moreItems, bind_of_ok (peek_cons (by decide) _)]
    change (if false = true then (_ : Reader Bool) else if ',' = ',' then _ else _) _ = _
    rw [if_neg Bool.false_ne_true, if_pos rfl, bind_of_ok hdrop, bind_of_ok (peek_cons hc cs)]
    simp only
    rfl

theorem moreItems_end (first : Bool) (rest : List Char) :
    moreItems first (']' :: rest) = .ok (false, ']' :: rest) := by
  rw [moreItems, bind_of_ok (peek_cons (by decide) _)]
  rfl

theorem moreMembers_separator (first : Bool) (cs : List Char) :
    moreMembers first (Value.separator first ++ '"' :: cs) = .ok (true, cs) := by
  cases first with
  | true =>
    change moreMembers true ('"' :: cs) = _
    rw [moreMembers, bind_of_ok (peek_cons (by decide) _)]
    rfl
  | false =>
    have hdrop : drop1 (',' :: '"' :: cs) = .ok ((), '"' :: cs) := rfl
    change moreMembers false (',' :: '"' :: cs) = _
    rw [moreMembers, bind_of_ok (peek_cons (by decide) _)]
    change (if false = true then (_ : Reader Bool) else if ',' = ',' then _ else _) _ = _
    rw [if_neg Bool.false_ne_true, if_pos rfl, bind_of_ok hdrop,
      bind_of_ok (peek_cons (by decide) _)]
    rfl

theorem moreMembers_end (first : Bool) (rest : List Char) :
    moreMembers first ('\x7d' :: rest) = .ok (false, '\x7d' :: rest) := by
  rw [moreMembers, bind_of_ok (peek_cons (by decide) _)]
  rfl

/-- An array goes on with a value and the items behind it. -/
theorem readItems_step {fuel depth : Nat} {first : Bool} {cs cs' cs'' r : List Char} {v : Value}
    {rest : List Value} (hmore : moreItems first cs = .ok (true, cs'))
    (hv : readValue fuel depth cs' = .ok (v, cs''))
    (hrest : readItems fuel depth false cs'' = .ok (rest, r)) :
    readItems (fuel + 1) depth first cs = .ok (v :: rest, r) := by
  rw [readItems, bind_of_ok hmore, if_pos rfl, bind_of_ok hv, bind_of_ok hrest]
  rfl

/-- An array ends at its bracket. -/
theorem readItems_end {fuel depth : Nat} {first : Bool} {cs r : List Char}
    (hmore : moreItems first cs = .ok (false, r)) :
    readItems (fuel + 1) depth first cs = .ok ([], r) := by
  rw [readItems, bind_of_ok hmore, if_neg Bool.false_ne_true]
  rfl

/-- An object goes on with a name, a colon and a value. -/
theorem readMembers_step {fuel depth : Nat} {first : Bool} {done : List (String × Value)}
    {cs r r' : List Char} {name : String} {v : Value}
    (hmore : moreMembers first cs =
      .ok (true, name.toList.flatMap escapeChar ++ '"' :: ':' :: r))
    (hv : readValue fuel depth r = .ok (v, r')) :
    readMembers (fuel + 1) depth first done cs =
      readMembers fuel depth false (Value.insertMember name v done) r' := by
  have hcolon : colon (':' :: r) = .ok ((), r) := by
    rw [colon, bind_of_ok (peek_cons (by decide) _)]
    rfl
  rw [readMembers, bind_of_ok hmore, if_pos rfl, bind_of_ok (stringRest_quote name _),
    bind_of_ok hcolon, bind_of_ok hv]

/-- An object ends at its brace. -/
theorem readMembers_end {fuel depth : Nat} {first : Bool} {done : List (String × Value)}
    {cs r : List Char} (hmore : moreMembers first cs = .ok (false, r)) :
    readMembers (fuel + 1) depth first done cs = .ok (done, r) := by
  rw [readMembers, bind_of_ok hmore, if_neg Bool.false_ne_true]
  rfl

/-- What starts with a digit is a number. -/
theorem readValue_digit {c : Char} (hc : c.isDigit = true) (fuel depth : Nat) (cs : List Char) :
    readValue (fuel + 1) depth (c :: cs) =
      (numberRest false >>= fun n => pure (.number n)) (c :: cs) := by
  have hne : ∀ d : Char, d.isDigit = false → c ≠ d := by
    rintro d hd rfl
    rw [hc] at hd
    cases hd
  -- The characters that the reader looks for before it looks for a digit.
  have hn := hne 'n' rfl
  have ht := hne 't' rfl
  have hf := hne 'f' rfl
  have hminus := hne '-' rfl
  have hquote := hne '"' rfl
  have hbracket := hne '[' rfl
  have hbrace := hne '\x7b' rfl
  rw [readValue, bind_of_ok (peek_cons (isSpace_of_isDigit hc) cs)]
  simp only
  rw [if_pos hc]

/-- A number is read back. -/
theorem readValue_number {i : Int} {fuel depth : Nat} {rest : List Char}
    (h : (Value.number (.integer i)).readable depth = true) (hrest : Delimited rest) :
    readValue (fuel + 1) depth ((Value.number (.integer i)).compact.toList ++ rest) =
      .ok (.number (.integer i), rest) := by
  simp only [Value.readable, Bool.and_eq_true, decide_eq_true_eq] at h
  cases i with
  | ofNat n =>
    have hn : n ≤ wordLimit := Int.ofNat_le.1 h.2
    have hread : numberRest false (Nat.toDigits 10 n ++ rest) = .ok (.integer n, rest) :=
      numberRest_toDigits false hn hrest
    obtain ⟨c, cs, hcs, hc⟩ := toDigits_cons n
    rw [Int.ofNat_eq_natCast, Value.toList_number_nonneg]
    rw [hcs, List.cons_append] at hread ⊢
    rw [readValue_digit hc, bind_of_ok hread]
    rfl
  | negSucc n =>
    have hn : n + 1 ≤ wordLimit := by
      rw [wordLimit]
      omega
    have hread : numberRest true (Nat.toDigits 10 (n + 1) ++ rest) =
        .ok (.integer (Int.negSucc n), rest) := by
      rw [numberRest_toDigits true hn hrest, integerOf, if_neg (by decide), if_neg (by omega)]
      rfl
    have hdrop : drop1 ('-' :: (Nat.toDigits 10 (n + 1) ++ rest)) =
      .ok ((), Nat.toDigits 10 (n + 1) ++ rest) := rfl
    rw [Value.toList_number_neg, List.cons_append, readValue,
      bind_of_ok (peek_cons (by decide) _)]
    simp only
    rw [bind_of_ok hdrop, bind_of_ok hread]
    rfl

/-- An array is read back if its items are. -/
theorem readValue_array {items : List Value} {fuel depth : Nat} {cs rest : List Char}
    (hdepth : 1 < depth)
    (hread : readItems fuel (depth - 1) true cs = .ok (Value.sortedItems items, ']' :: rest)) :
    readValue (fuel + 1) depth ('[' :: cs) = .ok ((Value.array items).sorted, rest) := by
  have hopen : openBracket depth ('[' :: cs) = .ok ((), cs) := by
    rw [openBracket, if_neg (Nat.not_le.2 hdepth)]
    rfl
  have hclose : closeList (']' :: rest) = .ok ((), rest) := by
    rw [closeList, bind_of_ok (peek_cons (by decide) _)]
    rfl
  rw [readValue, bind_of_ok (peek_cons (by decide) _)]
  simp only
  rw [bind_of_ok hopen, bind_of_ok hread, bind_of_ok hclose]
  rfl

/-- An object is read back if its members are. -/
theorem readValue_object {members : List (String × Value)} {fuel depth : Nat}
    {cs rest : List Char} (hdepth : 1 < depth)
    (hread : readMembers fuel (depth - 1) true [] cs =
      .ok (Value.sortedMembers members [], '\x7d' :: rest)) :
    readValue (fuel + 1) depth ('\x7b' :: cs) = .ok ((Value.object members).sorted, rest) := by
  have hopen : openBracket depth ('\x7b' :: cs) = .ok ((), cs) := by
    rw [openBracket, if_neg (Nat.not_le.2 hdepth)]
    rfl
  have hclose : closeObject ('\x7d' :: rest) = .ok ((), rest) := by
    rw [closeObject, bind_of_ok (peek_cons (by decide) _)]
    rfl
  rw [readValue, bind_of_ok (peek_cons (by decide) _)]
  simp only
  rw [bind_of_ok hopen, bind_of_ok hread, bind_of_ok hclose]
  rfl

theorem delimited_itemsText (items : List Value) (rest : List Char) :
    Delimited (Value.itemsText false items ++ ']' :: rest) := by
  intro c hc
  cases items with
  | nil => exact .inr (.inl (Option.some.inj hc).symm)
  | cons v items => exact .inl (Option.some.inj hc).symm

theorem delimited_membersText (members : List (String × Value)) (rest : List Char) :
    Delimited (Value.membersText false members ++ '\x7d' :: rest) := by
  intro c hc
  cases members with
  | nil => exact .inr (.inr (Option.some.inj hc).symm)
  | cons m members => exact .inl (Option.some.inj hc).symm

/-! ### Values, items and members

Each recursion of the reader takes one unit of fuel and leaves at least one character less, and a
value that is not written in one character takes two. -/

mutual

/-- A readable value is read back, with its members sorted. -/
theorem readValue_compact {v : Value} {fuel depth : Nat} {rest : List Char}
    (h : v.readable depth = true) (hfuel : 2 * v.compact.toList.length ≤ fuel)
    (hrest : Delimited rest) :
    readValue fuel depth (v.compact.toList ++ rest) = .ok (v.sorted, rest) := by
  obtain ⟨fuel, rfl⟩ : ∃ n, fuel = n + 1 := by
    obtain ⟨c, cs, hcs, -⟩ := compact_cons h
    rw [hcs, List.length_cons] at hfuel
    exact ⟨fuel - 1, by omega⟩
  cases v with
  | null =>
    have htext : Value.null.compact.toList ++ rest = 'n' :: ("ull".toList ++ rest) := rfl
    rw [htext, readValue, bind_of_ok (peek_cons (by decide) _)]
    rfl
  | bool b =>
    cases b with
    | true =>
      have htext : (Value.bool true).compact.toList ++ rest = 't' :: ("rue".toList ++ rest) := rfl
      rw [htext, readValue, bind_of_ok (peek_cons (by decide) _)]
      rfl
    | false =>
      have htext : (Value.bool false).compact.toList ++ rest = 'f' :: ("alse".toList ++ rest) :=
        rfl
      rw [htext, readValue, bind_of_ok (peek_cons (by decide) _)]
      rfl
  | string s =>
    have htext : (Value.string s).compact.toList ++ rest =
        '"' :: (s.toList.flatMap escapeChar ++ '"' :: rest) := by
      rw [Value.compact, toList_quote, List.cons_append, List.append_assoc]
      rfl
    have hdrop : drop1 ('"' :: (s.toList.flatMap escapeChar ++ '"' :: rest)) =
      .ok ((), s.toList.flatMap escapeChar ++ '"' :: rest) := rfl
    rw [htext, readValue, bind_of_ok (peek_cons (by decide) _)]
    simp only
    rw [bind_of_ok hdrop, bind_of_ok (stringRest_quote s rest)]
    rfl
  | number n =>
    cases n with
    | integer i => exact readValue_number h hrest
    | double bits => cases h
  | array items =>
    simp only [Value.readable, Bool.and_eq_true, decide_eq_true_eq] at h
    have htext : (Value.array items).compact.toList ++ rest =
        '[' :: (Value.itemsText true items ++ ']' :: rest) := by
      rw [Value.toList_array, List.cons_append, List.append_assoc]
      rfl
    have hitems : 2 * (Value.itemsText true items).length < fuel := by
      rw [Value.toList_array, List.length_cons, List.length_append] at hfuel
      omega
    rw [htext]
    exact readValue_array h.1 (readItems_compact h.2 hitems)
  | object members =>
    simp only [Value.readable, Bool.and_eq_true, decide_eq_true_eq] at h
    have htext : (Value.object members).compact.toList ++ rest =
        '\x7b' :: (Value.membersText true members ++ '\x7d' :: rest) := by
      rw [Value.toList_object, List.cons_append, List.append_assoc]
      rfl
    have hmembers : 2 * (Value.membersText true members).length < fuel := by
      rw [Value.toList_object, List.length_cons, List.length_append] at hfuel
      omega
    rw [htext]
    exact readValue_object h.1 (readMembers_compact h.2 hmembers)

/-- Items are read back up to the bracket. -/
theorem readItems_compact {items : List Value} {fuel depth : Nat} {first : Bool}
    {rest : List Char} (h : Value.readableItems depth items = true)
    (hfuel : 2 * (Value.itemsText first items).length < fuel) :
    readItems fuel depth first (Value.itemsText first items ++ ']' :: rest) =
      .ok (Value.sortedItems items, ']' :: rest) := by
  obtain ⟨fuel, rfl⟩ : ∃ n, fuel = n + 1 := ⟨fuel - 1, by omega⟩
  cases items with
  | nil => exact readItems_end (moreItems_end first rest)
  | cons v items =>
    simp only [Value.readableItems, Bool.and_eq_true] at h
    simp only [Value.itemsText, List.length_append] at hfuel
    obtain ⟨c, cs, hcs, hspace, hne⟩ := compact_cons h.1
    have hlength : (c :: cs).length = v.compact.toList.length := congrArg List.length hcs.symm
    rw [List.length_cons] at hlength
    -- Behind the comma the reader looks for a value, and the first character of `v` starts one.
    have hmore := moreItems_separator first hspace hne
      (cs ++ (Value.itemsText false items ++ ']' :: rest))
    rw [← List.cons_append, ← hcs] at hmore
    have hfirst : readValue fuel depth (v.compact.toList ++
        (Value.itemsText false items ++ ']' :: rest)) =
          .ok (v.sorted, Value.itemsText false items ++ ']' :: rest) :=
      readValue_compact h.1 (by omega) (delimited_itemsText items rest)
    have hbehind : readItems fuel depth false (Value.itemsText false items ++ ']' :: rest) =
        .ok (Value.sortedItems items, ']' :: rest) :=
      readItems_compact h.2 (by omega)
    rw [Value.itemsText, List.append_assoc, List.append_assoc]
    exact readItems_step hmore hfirst hbehind

/-- Members are read back up to the brace, and added to those before them. -/
theorem readMembers_compact {members done : List (String × Value)} {fuel depth : Nat}
    {first : Bool} {rest : List Char} (h : Value.readableMembers depth members = true)
    (hfuel : 2 * (Value.membersText first members).length < fuel) :
    readMembers fuel depth first done (Value.membersText first members ++ '\x7d' :: rest) =
      .ok (Value.sortedMembers members done, '\x7d' :: rest) := by
  obtain ⟨fuel, rfl⟩ : ∃ n, fuel = n + 1 := ⟨fuel - 1, by omega⟩
  cases members with
  | nil => exact readMembers_end (moreMembers_end first rest)
  | cons m members =>
    obtain ⟨name, v⟩ := m
    simp only [Value.readableMembers, Bool.and_eq_true] at h
    simp only [Value.membersText, Value.memberText, List.length_cons, List.length_append] at hfuel
    have hfirst : readValue fuel depth (v.compact.toList ++
        (Value.membersText false members ++ '\x7d' :: rest)) =
          .ok (v.sorted, Value.membersText false members ++ '\x7d' :: rest) :=
      readValue_compact h.1 (by omega) (delimited_membersText members rest)
    have hbehind : readMembers fuel depth false (Value.insertMember name v.sorted done)
        (Value.membersText false members ++ '\x7d' :: rest) =
          .ok (Value.sortedMembers members (Value.insertMember name v.sorted done),
            '\x7d' :: rest) :=
      readMembers_compact h.2 (by omega)
    have htext : Value.membersText first ((name, v) :: members) ++ '\x7d' :: rest =
        Value.separator first ++ '"' :: (name.toList.flatMap escapeChar ++ '"' :: ':' ::
          (v.compact.toList ++ (Value.membersText false members ++ '\x7d' :: rest))) := by
      simp [Value.membersText, Value.memberText]
    rw [htext, readMembers_step (moreMembers_separator first _) hfirst, hbehind]
    rfl

end

/-- **What is written is read back.** -/
theorem Value.parse_compact {v : Value} (h : v.readable depthLimit = true) :
    Value.parse v.compact = .ok v.sorted := by
  have hfuel : 2 * v.compact.toList.length ≤ 2 * v.compact.toList.length + 2 :=
    Nat.le_add_right ..
  have hnone : Delimited [] := fun c hc => by cases hc
  have hread := readValue_compact h hfuel hnone
  rw [List.append_nil] at hread
  have hend : endOfText [] = .ok ((), []) := rfl
  rw [Value.parse, readText]
  simp only [StateT.run']
  rw [bind_of_ok hread, bind_of_ok hend]
  rfl

end Scribe.Json
