import Mathlib.Data.List.Forall2
import Scribe.Proofs.Remote.Path
import Scribe.Proofs.Text.Blank

/-!
# Addresses with names in their paths

An address is made by writing names behind another address, with a slash in front of each. The path
spells the names if each is one segment of it. It does so if the names are tame and nothing is
trimmed from the end (`Open.spells_of_tame`), and only then (`Open.tame_of_spells`): a name must
hold no slash, none of the characters that end a path, none that an address does not count, no
encoded byte, and it must not be made of dots.

In the direction from the path to the names lengths are compared. Whatever happens to a name that is
not tame makes the path shorter than any path that spells the name (`whole_of_length_le`).
-/

namespace Scribe.Remote.Address

open Text

variable {cs ds : List Char} {text : String} {base a : Address}

/-! ### What is left of a text -/

/-- Whether a character does not count at the ends of an address. -/
def isOuter (c : Char) : Bool := c.toNat ≤ 0x20

/-- Whether a character counts in an address. -/
def counts (c : Char) : Bool := c != '\t' && c != '\n' && c != '\r'

/-- What is left of a text at the end of an address. -/
def cleanEnd (cs : List Char) : List Char := (dropWhileEnd isOuter cs).filter counts

theorem dropWhileEnd_eq_self (h : ∀ c ∈ cs.getLast?, isOuter c = false) :
    dropWhileEnd isOuter cs = cs := by
  have hend : dropWhileEnd isOuter (cs ++ []) = cs ++ dropWhileEnd isOuter [] :=
    dropWhileEnd_append h
  rwa [List.append_nil, dropWhileEnd_eq_nil_iff.2 (List.forall_mem_nil _), List.append_nil] at hend

theorem clean_append (hlast : ∀ c ∈ cs.getLast?, isOuter c = false) (hne : cs ≠ [])
    (ds : List Char) : clean (cs ++ ds) = clean cs ++ cleanEnd ds := by
  have hhead : cs.dropWhile isOuter ≠ [] := by
    intro hnil
    have hall := List.dropWhile_eq_nil_iff.1 hnil
    have hc := hlast _ (List.getLast?_eq_some_getLast hne)
    rw [hall _ (List.getLast_mem hne)] at hc
    cases hc
  have hend : ∀ c ∈ (cs.dropWhile isOuter).getLast?, isOuter c = false := by
    obtain ⟨front, hfront⟩ := List.dropWhile_suffix isOuter (l := cs)
    rwa [← hfront, List.getLast?_append_of_ne_nil _ hhead] at hlast
  have hstart : (cs ++ ds).dropWhile isOuter = cs.dropWhile isOuter ++ ds := by
    rw [List.dropWhile_append, if_neg (by simpa using hhead)]
  change (dropWhileEnd isOuter ((cs ++ ds).dropWhile isOuter)).filter counts =
    (dropWhileEnd isOuter (cs.dropWhile isOuter)).filter counts ++ _
  rw [hstart, dropWhileEnd_append hend, dropWhileEnd_eq_self hend, List.filter_append]
  rfl

/-- What is left of a text at the end of a path. -/
def pathEnd (cs : List Char) : List Char :=
  ((cleanEnd cs).takeWhile (· != '#')).takeWhile (· != '?')

theorem pathEnd_slash_cons (cs : List Char) : pathEnd ('/' :: cs) = '/' :: pathEnd cs := by
  have hend : dropWhileEnd isOuter (['/'] ++ cs) = ['/'] ++ dropWhileEnd isOuter cs :=
    dropWhileEnd_append (by rintro c ⟨⟩; rfl)
  rw [List.singleton_append, List.singleton_append] at hend
  have hclean : cleanEnd ('/' :: cs) = '/' :: cleanEnd cs := by
    rw [cleanEnd, hend, List.filter_cons_of_pos (by decide)]
    rfl
  rw [pathEnd, hclean, List.takeWhile_cons_of_pos (by decide),
    List.takeWhile_cons_of_pos (by decide)]
  rfl

theorem pathEnd_sublist (cs : List Char) : (pathEnd cs).Sublist cs := by
  have hend : (dropWhileEnd isOuter cs).Sublist cs := (List.rdropWhile_prefix isOuter cs).sublist
  exact (List.takeWhile_sublist _).trans <| (List.takeWhile_sublist _).trans <|
    List.filter_sublist.trans hend

/-- All of a text is left if nothing in it ends a path or does not count. -/
theorem pathEnd_eq_self_iff : pathEnd cs = cs ↔ (∀ c ∈ cs.getLast?, isOuter c = false) ∧
    ∀ c ∈ cs, counts c = true ∧ c ≠ '#' ∧ c ≠ '?' := by
  constructor
  · intro h
    have hmem : ∀ c ∈ cs, c ∈ pathEnd cs := fun c hc => h.symm ▸ hc
    refine ⟨?_, fun c hc => ?_⟩
    · have hsub : (pathEnd cs).Sublist (dropWhileEnd isOuter cs) :=
        (List.takeWhile_sublist _).trans <| (List.takeWhile_sublist _).trans List.filter_sublist
      rw [h] at hsub
      have hend : dropWhileEnd isOuter cs = cs :=
        (List.rdropWhile_prefix isOuter cs).sublist.antisymm hsub
      intro c hc
      obtain ⟨hne, rfl⟩ := List.mem_getLast?_eq_getLast hc
      exact Bool.not_eq_true _ ▸ List.rdropWhile_eq_self_iff.1 hend hne
    · have hquery := List.mem_takeWhile_imp (hmem c hc)
      have hnumber := (List.takeWhile_sublist _).mem (hmem c hc)
      have hcounts := List.mem_takeWhile_imp hnumber
      have hfilter := (List.takeWhile_sublist _).mem hnumber
      exact ⟨(List.mem_filter.1 hfilter).2, by simpa using hcounts, by simpa using hquery⟩
  · rintro ⟨hlast, hall⟩
    have hclean : cleanEnd cs = cs := by
      rw [cleanEnd, dropWhileEnd_eq_self hlast]
      exact List.filter_eq_self.2 fun c hc => (hall c hc).1
    have hnumber : cs.takeWhile (· != '#') = cs :=
      List.takeWhile_eq_self_iff.2 fun c hc => by simpa using (hall c hc).2.1
    have hquery : cs.takeWhile (· != '?') = cs :=
      List.takeWhile_eq_self_iff.2 fun c hc => by simpa using (hall c hc).2.2
    rw [pathEnd, hclean, hnumber, hquery]

/-! ### Parts -/

/-- An address from its parts: whether it is encrypted, what stands in front of the path, the path,
and the query. -/
def assemble? (secure : Bool) (authority path : List Char) (query : Option String) :
    Option Address := do
  let behindUser := (authority.reverse.takeWhile (· != '@')).reverse
  let user := userOf? (authority.take (authority.length - behindUser.length - 1))
  let (host, portNumber) ← hostAndNumber? secure behindUser
  return { secure, user, host, portNumber, path := pathOf path, query }

/-- Whether a character stands in front of the path. -/
def inAuthority (c : Char) : Bool := !isSlash c && c != '?'

/-- The query behind a path. -/
def queryOf : List Char → Option String
  | '?' :: q => some (percentEncode encodedInQuery (.ofList q))
  | _ => none

/-- An address from what stands behind the scheme. -/
def readRest? (secure : Bool) (rest : List Char) : Option Address :=
  let authority := rest.takeWhile inAuthority
  let rest := rest.drop authority.length
  let path := rest.takeWhile (· != '?')
  assemble? secure authority path (queryOf (rest.drop path.length))

theorem parse?_eq (text : String) : parse? text =
    (scheme? (clean text.toList)).bind fun (secure, rest) =>
      readRest? secure (rest.takeWhile (· != '#')) := rfl

theorem assemble?_of_some {secure : Bool} {authority path : List Char} {query : Option String}
    (h : assemble? secure authority path query = some a) :
    a.path = pathOf path ∧ ∀ path' query', assemble? secure authority path' query' =
      some { a with path := pathOf path', query := query' } := by
  unfold assemble? at h ⊢
  obtain ⟨⟨host, portNumber⟩, hhost, ha⟩ := Option.bind_eq_some_iff.1 h
  cases ha
  refine ⟨rfl, fun path' query' => ?_⟩
  dsimp only
  rw [hhost]
  rfl

/-- A run that has an end is not longer with more behind it. -/
theorem takeWhile_append_of_end {p : Char → Bool} (h : cs.drop (cs.takeWhile p).length ≠ [])
    (ds : List Char) : (cs ++ ds).takeWhile p = cs.takeWhile p := by
  rw [List.takeWhile_append, if_neg]
  intro hlength
  exact h (by rw [hlength, List.drop_length])

theorem drop_takeWhile_append_of_end {p : Char → Bool}
    (h : cs.drop (cs.takeWhile p).length ≠ []) (ds : List Char) :
    (cs ++ ds).drop ((cs ++ ds).takeWhile p).length = cs.drop (cs.takeWhile p).length ++ ds := by
  rw [takeWhile_append_of_end h, List.drop_append_of_le_length (List.takeWhile_prefix p).length_le]

theorem clean_sublist (cs : List Char) : (clean cs).Sublist cs := by
  have hend : (dropWhileEnd isOuter (cs.dropWhile isOuter)).Sublist (cs.dropWhile isOuter) :=
    (List.rdropWhile_prefix isOuter _).sublist
  exact List.filter_sublist.trans (hend.trans (List.dropWhile_sublist _))

theorem scheme?_suffix {secure : Bool} {rest : List Char} (h : scheme? cs = some (secure, rest)) :
    rest <:+ cs := by
  have hbehind : ∀ behind : List Char, cs.drop (cs.takeWhile (· != ':')).length = ':' :: behind →
      behind.dropWhile isSlash = rest → rest <:+ cs := by
    rintro behind hdrop rfl
    have hcs : ':' :: behind <:+ cs := hdrop ▸ List.drop_suffix _ _
    exact (List.dropWhile_suffix _).trans ((List.suffix_cons _ _).trans hcs)
  unfold scheme? at h
  dsimp only at h
  split at h
  · next behind hdrop hname =>
    simp only [Option.some.injEq, Prod.mk.injEq] at h
    exact hbehind behind hdrop h.2
  · next behind hdrop hname =>
    simp only [Option.some.injEq, Prod.mk.injEq] at h
    exact hbehind behind hdrop h.2
  · cases h

theorem scheme?_append {secure : Bool} {rest : List Char} (h : scheme? cs = some (secure, rest))
    (hrest : rest ≠ []) (ds : List Char) : scheme? (cs ++ ds) = some (secure, rest ++ ds) := by
  have hend : cs.drop (cs.takeWhile (· != ':')).length ≠ [] := by
    intro hnil
    rw [scheme?, hnil] at h
    cases h
  have hslashes : ∀ behind : List Char, behind.dropWhile isSlash = rest →
      (behind ++ ds).dropWhile isSlash = rest ++ ds := by
    rintro behind rfl
    rw [List.dropWhile_append, if_neg (by simpa using hrest)]
  unfold scheme? at h ⊢
  dsimp only at h ⊢
  rw [drop_takeWhile_append_of_end hend, takeWhile_append_of_end hend]
  split at h
  · next behind hdrop hname =>
    simp only [Option.some.injEq, Prod.mk.injEq] at h
    simp only [hdrop, hname, List.cons_append, hslashes behind h.2, h.1]
  · next behind hdrop hname =>
    simp only [Option.some.injEq, Prod.mk.injEq] at h
    simp only [hdrop, hname, List.cons_append, hslashes behind h.2, h.1]
  · cases h

/-! ### Text behind an address -/

/-- An address with a path, and text behind it that can only continue the path. -/
structure Open (text : String) (base : Address) : Prop where
  parsed : parse? text = some base
  /-- The text has no query and no part that is not sent. -/
  plain : ∀ c ∈ text.toList, c ≠ '#' ∧ c ≠ '?'
  /-- The text does not end in a character that does not count. -/
  last : ∀ c ∈ text.toList.getLast?, isOuter c = false
  /-- The path does not end in a slash. -/
  path : base.path.toList.getLast? ≠ some '/'

/-- What stands in a path, segment by segment in reverse. -/
structure Stands (base : Address) (done : List (List Char)) : Prop where
  path : base.path.toList = pathText done.reverse
  kept : ∀ s ∈ done, ∀ c ∈ s, Kept encodedInPath c

/-- The characters of a path that goes on are such as a path leaves alone. -/
theorem Stands.kept_of_mem_path {done : List (List Char)} {path : String} (h : Stands base done)
    (hpath : path.toList = pathText (resolve done ((segments cs).map written))) {c : Char}
    (hc : c ∈ path.toList) : Kept encodedInPath c := by
  rw [hpath, pathText, List.mem_flatMap] at hc
  obtain ⟨s, hs, hc⟩ := hc
  rcases List.mem_cons.1 hc with rfl | hc
  · decide
  · rcases mem_resolve hs with rfl | hdone | hmem
    · cases hc
    · exact h.kept s hdone c hc
    · obtain ⟨t, -, rfl⟩ := List.mem_map.1 hmem
      exact kept_of_mem_written hc

theorem pathOf_cons (c : Char) (cs : List Char) :
    pathOf (c :: cs) = .ofList (pathText (resolve [] ((segments cs).map written))) := by
  have hwritten : (fun s => (percentEncode encodedInPath (.ofList s)).toList) = written := by
    funext s
    rw [toList_percentEncode, String.toList_ofList]
    rfl
  rw [pathOf, hwritten]
  rfl

/-- A path that does not end in a slash is continued behind its last segment. -/
theorem exists_stands {c : Char} {p : List Char} (hpath : base.path = pathOf (c :: p))
    (hlast : base.path.toList.getLast? ≠ some '/') : ∃ done, Stands base done ∧
      ∀ cs, pathOf (c :: (p ++ '/' :: cs)) =
        .ofList (pathText (resolve done ((segments cs).map written))) := by
  rw [pathOf_cons] at hpath
  generalize hss : (segments p).map written = ss at hpath
  have hne : ss ≠ [] := by
    rw [← hss, ne_eq, List.map_eq_nil_iff]
    exact segments_ne_nil p
  obtain ⟨front, s, rfl⟩ := List.eq_nil_or_concat' ss |>.resolve_left hne
  rw [hpath, String.toList_ofList, resolve_append front (List.cons_ne_nil s [])] at hlast
  -- With dots at its end the path would end in a slash.
  have hs : ¬IsDots s := by
    intro hdots
    rw [resolve_singleton_of_dots hdots, pathText_append] at hlast
    exact hlast List.getLast?_concat
  have hdone : resolve [] (front ++ [s]) = ((front ++ [s]).foldl descend []).reverse := by
    rw [resolve_append front (List.cons_ne_nil s []), resolve_cons_of_plain hs, resolve,
      List.foldl_append, List.foldl_cons, List.foldl_nil, descend_of_plain hs]
  refine ⟨(front ++ [s]).foldl descend [], ⟨?_, ?_⟩, fun cs => ?_⟩
  · rw [hpath, String.toList_ofList, hdone]
  · intro t ht d hd
    rw [← List.mem_reverse, ← hdone] at ht
    rcases mem_resolve ht with rfl | hnil | hmem
    · cases hd
    · cases hnil
    · rw [← hss] at hmem
      obtain ⟨u, -, rfl⟩ := List.mem_map.1 hmem
      exact kept_of_mem_written hd
  · have hcs : (segments cs).map written ≠ [] := by
      rw [ne_eq, List.map_eq_nil_iff]
      exact segments_ne_nil cs
    rw [pathOf_cons, segments_append_cons rfl, List.map_append, hss, resolve_append _ hcs]

/-- What stands behind the scheme of an open address. -/
theorem Open.exists_rest (h : Open text base) : ∃ secure rest,
    scheme? (clean text.toList) = some (secure, rest) ∧ readRest? secure rest = some base ∧
      ∀ c ∈ rest, c ≠ '#' ∧ c ≠ '?' := by
  have hparsed := h.parsed
  rw [parse?_eq, Option.bind_eq_some_iff] at hparsed
  obtain ⟨⟨secure, rest⟩, hscheme, hbase⟩ := hparsed
  have hplain : ∀ c ∈ rest, c ≠ '#' ∧ c ≠ '?' := fun c hc =>
    h.plain c ((clean_sublist _).mem ((scheme?_suffix hscheme).mem hc))
  have hnumber : ∀ c ∈ rest, (c != '#') = true := fun c hc => by simpa using (hplain c hc).1
  change readRest? secure (rest.takeWhile (· != '#')) = some base at hbase
  rw [List.takeWhile_eq_self_iff.2 hnumber] at hbase
  exact ⟨secure, rest, hscheme, hbase, hplain⟩

/-- What is read behind a scheme continues its path, if this does not end in a slash. -/
theorem exists_stands_of_rest {secure : Bool} {rest : List Char}
    (hbase : readRest? secure rest = some base) (hplain : ∀ c ∈ rest, c ≠ '?')
    (hlast : base.path.toList.getLast? ≠ some '/') : ∃ done, rest ≠ [] ∧ Stands base done ∧
      ∀ ds cs, ds.takeWhile (· != '?') = '/' :: cs → ∃ query, readRest? secure (rest ++ ds) = some
        { base with
          path := .ofList (pathText (resolve done ((segments cs).map written)))
          query := query } := by
  rw [readRest?] at hbase
  generalize hpath : rest.drop (rest.takeWhile inAuthority).length = path at hbase
  have hquery : ∀ c ∈ path, (c != '?') = true := fun c hc => by
    simpa using hplain c (List.mem_of_mem_drop (hpath ▸ hc))
  rw [List.takeWhile_eq_self_iff.2 hquery] at hbase
  obtain ⟨hbasePath, hother⟩ := assemble?_of_some hbase
  -- Without a path of its own the address would have the path of a slash.
  have hne : path ≠ [] := by
    rintro rfl
    refine hlast ?_
    rw [hbasePath]
    rfl
  obtain ⟨c, p, rfl⟩ := List.exists_cons_of_ne_nil hne
  obtain ⟨done, hstands, hcontinued⟩ := exists_stands hbasePath hlast
  have hend : rest.drop (rest.takeWhile inAuthority).length ≠ [] := hpath ▸ hne
  refine ⟨done, ?_, hstands, fun ds cs hds => ?_⟩
  · rintro rfl
    cases hpath
  · rw [readRest?, drop_takeWhile_append_of_end hend, takeWhile_append_of_end hend, hpath,
      List.takeWhile_append_of_pos hquery, hds, ← hcontinued]
    exact ⟨_, hother _ _⟩

/-- **Text behind an address that is open continues its path.** -/
theorem Open.exists_stands (h : Open text base) : ∃ done, Stands base done ∧
    ∀ (z : String) cs, z.toList = '/' :: cs → ∃ query, parse? (text ++ z) = some
      { base with
        path := .ofList (pathText (resolve done ((segments (pathEnd cs)).map written)))
        query := query } := by
  obtain ⟨secure, rest, hscheme, hbase, hplain⟩ := h.exists_rest
  obtain ⟨done, hrest, hstands, hcontinued⟩ :=
    exists_stands_of_rest hbase (fun c hc => (hplain c hc).2) h.path
  refine ⟨done, hstands, fun z cs hz => ?_⟩
  have htext : text.toList ≠ [] := by
    intro hnil
    rw [hnil] at hscheme
    cases hscheme
  have hnumber : ∀ c ∈ rest, (c != '#') = true := fun c hc => by simpa using (hplain c hc).1
  have hparse : parse? (text ++ z) =
      readRest? secure (rest ++ (cleanEnd z.toList).takeWhile (· != '#')) := by
    rw [parse?_eq, String.toList_append, clean_append h.last htext, scheme?_append hscheme hrest,
      ← List.takeWhile_append_of_pos hnumber]
    rfl
  rw [hparse]
  refine hcontinued _ _ ?_
  rw [← pathEnd_slash_cons, ← hz, pathEnd]

theorem Open.exists_parse (h : Open text base) (z : String) (hz : z.toList.head? = some '/') :
    ∃ a, parse? (text ++ z) = some a := by
  obtain ⟨done, -, hcontinued⟩ := h.exists_stands
  obtain ⟨cs, hcs⟩ := List.head?_eq_some_iff.1 hz
  obtain ⟨query, hparse⟩ := hcontinued z cs hcs
  exact ⟨_, hparse⟩

theorem path_withParams (a : Address) (params : List (String × String)) :
    (a.withParams params).path = a.path := by
  rw [withParams]
  split <;> rfl

/-! ### Names -/

/-- Names with a slash in front of each. -/
def namesText (names : List String) : List Char := pathText (names.map String.toList)

/-- A path goes on from another one with names, each of which is one segment. -/
def Spells (front : String) (names : List String) (path : String) : Prop :=
  ∃ ts : List String, (∀ t ∈ ts, Unbroken t.toList) ∧
    List.Forall₂ (fun name t => percentDecode? t = some name) names ts ∧
    path.toList = front.toList ++ namesText ts

theorem namesText_inj {ts us : List String} (hts : ∀ t ∈ ts, Unbroken t.toList)
    (hus : ∀ u ∈ us, Unbroken u.toList) (h : namesText ts = namesText us) : ts = us :=
  List.map_injective_iff.2 (fun _ _ => String.toList_inj.1) <|
    pathText_inj (List.forall_mem_map.2 hts) (List.forall_mem_map.2 hus) h

/-- A path spells its names only. -/
theorem Spells.unique {front path : String} {names others : List String}
    (h : Spells front names path) (h' : Spells front others path) : names = others := by
  obtain ⟨ts, hts, hnames, hpath⟩ := h
  obtain ⟨us, hus, hothers, hpath'⟩ := h'
  cases namesText_inj hts hus (List.append_cancel_left (hpath ▸ hpath'))
  refine Relator.LeftUnique.forall₂ ?_ hnames hothers
  exact fun name t other hname hother => Option.some.inj (hname.symm.trans hother)

/-- A name that an address keeps as it is. -/
structure Tame (name : String) : Prop where
  unbroken : Unbroken name.toList
  counted : ∀ c ∈ name.toList, counts c = true ∧ c ≠ '#' ∧ c ≠ '?'
  plain : holdsCode name.toList = false
  dots : name ≠ "." ∧ name ≠ ".."

theorem tame_iff {name : String} : Tame name ↔
    (name.toList.all fun c => !isSlash c && counts c && c != '#' && c != '?') = true ∧
      holdsCode name.toList = false ∧ name ≠ "." ∧ name ≠ ".." := by
  have hall : (name.toList.all fun c => !isSlash c && counts c && c != '#' && c != '?') = true ↔
      Unbroken name.toList ∧ ∀ c ∈ name.toList, counts c = true ∧ c ≠ '#' ∧ c ≠ '?' := by
    simp [Unbroken, forall_and, and_assoc]
  rw [hall]
  constructor
  · rintro ⟨hunbroken, hcounted, hplain, hdots⟩
    exact ⟨⟨hunbroken, hcounted⟩, hplain, hdots⟩
  · rintro ⟨⟨hunbroken, hcounted⟩, hplain, hdots⟩
    exact ⟨hunbroken, hcounted, hplain, hdots⟩

instance : DecidablePred Tame := fun _ => decidable_of_iff _ tame_iff.symm

theorem percentDecode?_written {name : String} :
    percentDecode? (.ofList (written name.toList)) = some name ↔ holdsCode name.toList = false := by
  rw [← percentDecode?_percentEncode_iff leavesCodes_encodedInPath]
  rfl

/-- A dot that is found in a segment stands there, or a code for it does. -/
theorem percentDecodeBytes_of_plainDots {s rest : List Char} (h : plainDots s = '.' :: rest) :
    ∃ s', plainDots s' = rest ∧
      percentDecodeBytes (bytesOf s) = 46 :: percentDecodeBytes (bytesOf s') := by
  unfold plainDots at h
  split at h
  · next cs =>
    cases h
    exact ⟨cs, rfl, rfl⟩
  · next cs =>
    cases h
    exact ⟨cs, rfl, rfl⟩
  · next c cs _ _ =>
    cases h
    exact ⟨cs, rfl, rfl⟩
  · cases h

theorem eq_nil_of_plainDots {s : List Char} (h : plainDots s = []) : s = [] := by
  unfold plainDots at h
  split at h <;> first | rfl | cases h

/-- What is resolved as dots is what one dot or two are written as. -/
theorem eq_dots_of_isDots {name t : String} (h : percentDecode? t = some name)
    (hdots : IsDots t.toList) : name = "." ∨ name = ".." := by
  have hname : ∀ other : String, percentDecodeBytes (bytesOf t.toList) = bytesOf other.toList →
      name = other := by
    intro other hbytes
    rw [percentDecode?, hbytes, decode?_eq_some_iff.2 rfl] at h
    exact (Option.some.inj h).symm
  rcases hdots with hone | htwo
  · obtain ⟨s, hs, hbytes⟩ := percentDecodeBytes_of_plainDots hone
    rw [eq_nil_of_plainDots hs] at hbytes
    exact .inl (hname "." hbytes)
  · obtain ⟨s, hs, hbytes⟩ := percentDecodeBytes_of_plainDots htwo
    obtain ⟨s', hs', hbytes'⟩ := percentDecodeBytes_of_plainDots hs
    rw [eq_nil_of_plainDots hs'] at hbytes'
    rw [hbytes'] at hbytes
    exact .inr (hname ".." hbytes)

section

variable {names : List String} {z : String}

/-- The path that comes of names behind an address. -/
theorem Open.exists_path (h : Open text base) (hne : names ≠ []) (hz : z.toList = namesText names)
    (ha : parse? (text ++ z) = some a) : ∃ done, Stands base done ∧ ∃ cs,
      pathEnd z.toList = '/' :: cs ∧
      a.path.toList = pathText (resolve done ((segments cs).map written)) := by
  obtain ⟨done, hstands, hcontinued⟩ := h.exists_stands
  obtain ⟨name, rest, rfl⟩ := List.exists_cons_of_ne_nil hne
  have hslash : z.toList = '/' :: (name.toList ++ namesText rest) := hz.trans (pathText_cons _ _)
  obtain ⟨query, hparse⟩ := hcontinued z _ hslash
  rw [ha, Option.some.injEq] at hparse
  refine ⟨done, hstands, pathEnd (name.toList ++ namesText rest), ?_, ?_⟩
  · rw [hslash]
    exact pathEnd_slash_cons _
  · rw [hparse]
    exact String.toList_ofList

/-- What tame names are written as. -/
def writtenNames (names : List String) : List String :=
  names.map fun name => .ofList (written name.toList)

theorem namesText_writtenNames (names : List String) :
    namesText (writtenNames names) = pathText ((names.map String.toList).map written) := by
  simp [namesText, writtenNames, Function.comp_def]

theorem segments_of_namesText (hne : names ≠ []) (hcs : namesText names = '/' :: cs)
    (hunbroken : ∀ name ∈ names, Unbroken name.toList) :
    segments cs = names.map String.toList := by
  have htail := congrArg List.tail hcs
  rw [List.tail_cons] at htail
  rw [← htail]
  exact segments_pathText (by simpa using hne) (List.forall_mem_map.2 hunbroken)

theorem mem_namesText {name : String} (hname : name ∈ names) {c : Char} (hc : c ∈ name.toList) :
    c ∈ namesText names :=
  List.mem_flatMap.2 ⟨_, List.mem_map_of_mem hname, .tail _ hc⟩

/-- **A path spells tame names.** -/
theorem Open.spells_of_tame (h : Open text base) (hne : names ≠ [])
    (hz : z.toList = namesText names) (ha : parse? (text ++ z) = some a)
    (hnames : ∀ name ∈ names, Tame name) (hlast : ∀ c ∈ z.toList.getLast?, isOuter c = false) :
    Spells base.path names a.path := by
  obtain ⟨done, hstands, cs, hcs, hpath⟩ := h.exists_path hne hz ha
  have hcounted : ∀ c ∈ z.toList, counts c = true ∧ c ≠ '#' ∧ c ≠ '?' := by
    intro c hc
    rw [hz, namesText, pathText] at hc
    obtain ⟨s, hs, hcs⟩ := List.mem_flatMap.1 hc
    obtain ⟨name, hname, rfl⟩ := List.mem_map.1 hs
    rcases List.mem_cons.1 hcs with rfl | hcs
    · decide
    · exact (hnames name hname).counted c hcs
  rw [pathEnd_eq_self_iff.2 ⟨hlast, hcounted⟩, hz] at hcs
  have hsegments := segments_of_namesText hne hcs fun name hname => (hnames name hname).unbroken
  have hdots : ∀ s ∈ (segments cs).map written, ¬IsDots s := by
    rw [hsegments]
    simp only [List.forall_mem_map]
    intro name hname hdots
    have hdecode := percentDecode?_written.2 (hnames name hname).plain
    rcases eq_dots_of_isDots hdecode (by rwa [String.toList_ofList]) with hone | htwo
    · exact (hnames name hname).dots.1 hone
    · exact (hnames name hname).dots.2 htwo
  refine ⟨writtenNames names, ?_, ?_, ?_⟩
  · simp only [writtenNames, List.forall_mem_map, String.toList_ofList]
    exact fun name hname => unbroken_written (hnames name hname).unbroken
  · rw [writtenNames, List.forall₂_map_right_iff, List.forall₂_same]
    exact fun name hname => percentDecode?_written.2 (hnames name hname).plain
  · rw [hpath, resolve_of_plain hdots, pathText_append, ← hstands.path, hsegments,
      namesText_writtenNames]

/-- What spells names is no shorter than the names as they have to be written. -/
theorem length_escaped_le {ts : List String}
    (hnames : List.Forall₂ (fun name t => percentDecode? t = some name) names ts)
    (hkept : ∀ t ∈ ts, ∀ c ∈ t.toList, Kept encodedInName c) :
    (pathText ((names.map String.toList).map escaped)).length ≤ (namesText ts).length := by
  induction hnames with
  | nil => exact Nat.le_refl 0
  | @cons name t names ts hname _ ih =>
    have hfirst := length_percentEncode_le hname (hkept t (.head _))
    rw [toList_percentEncode] at hfirst
    change (escaped name.toList).length ≤ _ at hfirst
    have hrest := ih fun u hu => hkept u (.tail _ hu)
    change (pathText (escaped name.toList :: (names.map String.toList).map escaped)).length ≤
      (pathText (t.toList :: ts.map String.toList)).length
    rw [pathText_cons, pathText_cons, List.length_cons, List.length_cons, List.length_append,
      List.length_append]
    unfold namesText at hrest
    omega

/-- Nothing of names gets lost in an address: no dots are resolved, nothing is left out, and no name
is cut at a slash. -/
structure Whole (names : List String) (cs : List Char) : Prop where
  plain : ∀ s ∈ (segments cs).map written, ¬IsDots s
  kept : pathEnd (namesText names) = namesText names
  unbroken : ∀ name ∈ names, Unbroken name.toList

/-- Nothing gets lost if the path is as long as with the names as they have to be written, since
whatever gets lost makes it shorter. -/
theorem whole_of_length_le {done : List (List Char)}
    (hcs : pathEnd (namesText names) = '/' :: cs)
    (hle : (pathText done).length + (pathText ((names.map String.toList).map escaped)).length ≤
      (pathText (resolve done ((segments cs).map written))).length) : Whole names cs := by
  have hwritten : written (namesText names) = pathText ((names.map String.toList).map written) :=
    written_pathText _
  have hleft : (pathText ((segments cs).map written)).length =
      (written (pathEnd (namesText names))).length := by
    rw [length_pathText_written, hcs, written_slash_cons rfl, List.length_cons]
  have hresolve := length_resolve_le done ((segments cs).map written)
  have hend := (pathEnd_sublist (namesText names)).length_le
  have hsublist := length_written_of_sublist (pathEnd_sublist (namesText names))
  have hslashes := length_pathText_written_le (names.map String.toList)
  rw [← hwritten] at hslashes
  refine ⟨fun s hs hdots => ?_, ?_, fun name hname => ?_⟩
  · have hlt := length_resolve_lt done ⟨s, hs, hdots⟩
    omega
  · exact (pathEnd_sublist _).eq_of_length_le (by omega)
  · by_contra hslash
    have hlt := length_pathText_written_lt (List.mem_map_of_mem hname) hslash
    rw [← hwritten] at hlt
    omega

/-- **A path spells tame names only.** -/
theorem Open.tame_of_spells (h : Open text base) (hne : names ≠ [])
    (hz : z.toList = namesText names) (ha : parse? (text ++ z) = some a)
    (hspells : Spells base.path names a.path) :
    (∀ name ∈ names, Tame name) ∧ ∀ c ∈ z.toList.getLast?, isOuter c = false := by
  obtain ⟨done, hstands, cs, hcs, hpath⟩ := h.exists_path hne hz ha
  obtain ⟨ts, hunbroken, hnames, hspelled⟩ := hspells
  have hkept : ∀ t ∈ ts, ∀ c ∈ t.toList, Kept encodedInName c := by
    intro t ht c hc
    refine kept_encodedInName.2 ⟨hstands.kept_of_mem_path hpath ?_, hunbroken t ht c hc⟩
    rw [hspelled]
    exact List.mem_append_right _ (mem_namesText ht hc)
  rw [hz] at hcs ⊢
  have hwhole : Whole names cs := by
    refine whole_of_length_le hcs (?_ : (pathText done).length + _ ≤ _)
    rw [← hpath, hspelled, List.length_append, hstands.path, length_pathText_reverse]
    exact Nat.add_le_add_left (length_escaped_le hnames hkept) _
  obtain ⟨hlast, hcounted⟩ := pathEnd_eq_self_iff.1 hwhole.kept
  have hsegments := segments_of_namesText hne (hwhole.kept.symm.trans hcs) hwhole.unbroken
  -- So the segments are the names as they are written, and each is resolved to its name.
  have hts : writtenNames names = ts := by
    refine namesText_inj ?_ hunbroken ?_
    · simp only [writtenNames, List.forall_mem_map, String.toList_ofList]
      exact fun name hname => unbroken_written (hwhole.unbroken name hname)
    · rw [hpath, resolve_of_plain hwhole.plain, pathText_append, ← hstands.path, hsegments,
        ← namesText_writtenNames] at hspelled
      exact List.append_cancel_left hspelled
  rw [← hts, writtenNames, List.forall₂_map_right_iff, List.forall₂_same] at hnames
  refine ⟨fun name hname => ⟨hwhole.unbroken name hname, fun c hc => ?_, ?_, ?_⟩, hlast⟩
  · exact hcounted c (mem_namesText hname hc)
  · exact percentDecode?_written.1 (hnames name hname)
  · have hplain : ¬IsDots (written name.toList) := by
      refine hwhole.plain _ (List.mem_map_of_mem ?_)
      rw [hsegments]
      exact List.mem_map_of_mem hname
    constructor
    · rintro rfl
      exact hplain (by decide)
    · rintro rfl
      exact hplain (by decide)

end

end Scribe.Remote.Address
