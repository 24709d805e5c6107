import Mathlib.Data.List.DropRight
import Orama.Lib.Strings

namespace Orama.Lib.Url
open List

def hexUpper (d : Nat) : UInt8 := UInt8.ofNat (if d < 10 then 48 + d else 55 + d)

def percent (b : UInt8) : Bytes := [37, hexUpper (b.toNat / 16), hexUpper (b.toNat % 16)]

def escape (keep : UInt8 → Bool) (s : Bytes) : Bytes := s.flatMap fun b => if keep b then [b] else percent b

def isAlnum (c : UInt8) : Bool := (48 ≤ c && c ≤ 57) || (65 ≤ c && c ≤ 90) || (97 ≤ c && c ≤ 122)

def componentByte (c : UInt8) : Bool := isAlnum c || [45, 95, 46, 33, 126, 42, 39, 40, 41].contains c

def queryByte (c : UInt8) : Bool := 32 < c && c < 127 && !([34, 35, 60, 62, 39].contains c)

def formByte (c : UInt8) : Bool := isAlnum c || [42, 45, 46, 95].contains c

def formEscape (s : Bytes) : Bytes :=
  s.flatMap fun b => if b = 32 then [43] else if formByte b then [b] else percent b

def formPair (e : Bytes × Bytes) : Bytes := formEscape e.1 ++ 61 :: formEscape e.2

def formSerialize (params : List (Bytes × Bytes)) : Bytes := List.intercalate [38] (params.map formPair)

/-- The query of a URL as a parser of URLs leaves it. Control characters around the
URL are dropped, tabs and line breaks everywhere. -/
def rawQuery (url : Bytes) : Bytes :=
  let url := (url.dropWhile (· ≤ 32)).rdropWhile (· ≤ 32)
  let url := url.filter fun c => !([9, 10, 13].contains c)
  escape queryByte ((cut 63 (cut 35 url).1).2.getD [])

def tidy (s : Bytes) : Bytes :=
  (cut 35 ((s.rdropWhile (· ≤ 32)).filter fun c => !([9, 10, 13].contains c))).1

def unescape : Bytes → Option Bytes
  | [] => some []
  | c :: rest =>
    if c = 37 then
      match rest with
      | hi :: lo :: rest =>
        match hexValue hi, hexValue lo with
        | some h, some l => (unescape rest).map (UInt8.ofNat (16 * h + l) :: ·)
        | _, _ => none
      | _ => none
    else (unescape rest).map ((if c = 43 then 32 else c) :: ·)

def parsePair (segment : Bytes) : Option (Bytes × Bytes) :=
  if segment.contains 59 || segment.isEmpty then none
  else
    match unescape (cut 61 segment).1, unescape ((cut 61 segment).2.getD []) with
    | some key, some value => some (key, value)
    | _, _ => none

def parseQuery (query : Bytes) : List (Bytes × Bytes) := (query.splitOn 38).filterMap parsePair

variable {P : UInt8 → Prop}

lemma forall_byte (h : ∀ n < 256, P (UInt8.ofNat n)) (c : UInt8) : P c := by
  have hc := h c.toNat c.toNat_lt
  rwa [UInt8.ofNat_toNat] at hc

lemma componentByte_spec : ∀ c, componentByte c → 32 < c ∧ c ∉ [35, 38, 59] := by
  apply forall_byte
  decide +kernel

lemma hexValue_hexUpper : ∀ d < 16, hexValue (hexUpper d) = some d := by decide

lemma hexUpper_alnum : ∀ d < 16, isAlnum (hexUpper d) := by decide

lemma unescape_percent (b : UInt8) (rest : Bytes) :
    unescape (percent b ++ rest) = (unescape rest).map (b :: ·) := by
  have hb := b.toNat_lt
  have hval : 16 * (b.toNat / 16) + b.toNat % 16 = b.toNat := Nat.div_add_mod _ _
  change unescape (37 :: hexUpper (b.toNat / 16) :: hexUpper (b.toNat % 16) :: rest) = _
  grind [UInt8.ofNat_toNat, hexValue_hexUpper, unescape]

variable {c : UInt8}

lemma unescape_cons (hc : c ≠ 37) (rest : Bytes) :
    unescape (c :: rest) = (unescape rest).map ((if c = 43 then 32 else c) :: ·) := by
  rw [unescape.eq_def]
  simp [hc]

lemma unescape_formEscape (s : Bytes) : unescape (formEscape s) = some s := by
  induction s with
  | nil => rfl
  | cons c s ih =>
    change unescape ((if c = 32 then [43] else if formByte c then [c] else percent c) ++ formEscape s) = _
    grind [unescape_cons, unescape_percent, formByte, isAlnum]

section
variable {keep : UInt8 → Bool}

@[simp]
lemma escape_append (s t : Bytes) : escape keep (s ++ t) = escape keep s ++ escape keep t := by simp [escape]

variable {c : UInt8}

lemma escape_cons_of_keep (hc : keep c) (s : Bytes) : escape keep (c :: s) = c :: escape keep s := by
  simp [escape, hc]

lemma mem_escape {s : Bytes} (h : c ∈ escape keep s) : (c ∈ s ∧ keep c) ∨ c = 37 ∨ isAlnum c := by
  obtain ⟨b, hb, hc⟩ := mem_flatMap.1 h
  grind [UInt8.toNat_lt, hexUpper_alnum, percent]

lemma unescape_escape (h37 : keep 37 = false) (h43 : keep 43 = false) (s : Bytes) :
    unescape (escape keep s) = some s := by
  induction s with
  | nil => rfl
  | cons c s ih =>
    by_cases hc : keep c
    · grind [escape_cons_of_keep, unescape_cons]
    · change unescape ((if keep c then [c] else percent c) ++ escape keep s) = _
      rw [if_neg hc, unescape_percent, ih]
      rfl

lemma escape_cons_cases (keep : UInt8 → Bool) (c : UInt8) (s : Bytes) :
    (hexValue c ≠ none ∧ escape keep (c :: s) = c :: escape keep s) ∨
    ∃ c' t, hexValue c' = none ∧ escape keep (c :: s) = c' :: t := by
  by_cases hc : keep c
  · grind [escape_cons_of_keep]
  · refine .inr ⟨37, (percent c).tail ++ escape keep s, by decide, ?_⟩
    simp [escape, hc, percent]

lemma unescape_eq_none {hi : UInt8} (h : hexValue hi = none) (rest : Bytes) :
    unescape (37 :: hi :: rest) = none := by
  cases rest with
  | nil => rfl
  | cons lo rest =>
    rw [unescape, if_pos rfl]
    simp only [h]

end

structure Transparent (keep : UInt8 → Bool) : Prop where
  hex : ∀ c, hexValue c ≠ none → keep c = true
  marks : ∀ c ∈ [37, 38, 43, 59, 61], keep c = true

lemma transparent_queryByte : Transparent queryByte where
  hex := by grind [hexValue, queryByte]
  marks := all_iff_forall_prop.1 (by decide)

section
variable {keep : UInt8 → Bool} (hkeep : Transparent keep)
include hkeep

lemma Transparent.unescape_escape (s : Bytes) : unescape (escape keep s) = unescape s := by
  have h37 : keep 37 := hkeep.marks 37 (by decide)
  fun_induction unescape s with
  | case1 => rfl
  | case2 hi lo rest h l hl hh ih =>
    have hhi := hkeep.hex hi (by simp [hh])
    have hlo := hkeep.hex lo (by simp [hl])
    grind [escape_cons_of_keep, unescape]
  | case3 hi lo rest hnone =>
    rw [escape_cons_of_keep h37]
    rcases escape_cons_cases keep hi (lo :: rest) with ⟨hhex, heq⟩ | ⟨c, t, hc, heq⟩
    · have hlo : hexValue lo = none := by
        by_contra hlo
        obtain ⟨h, hh⟩ := Option.ne_none_iff_exists'.1 hhex
        obtain ⟨l, hl⟩ := Option.ne_none_iff_exists'.1 hlo
        exact hnone h l hh hl
      rw [heq]
      rcases escape_cons_cases keep lo rest with ⟨hhex', -⟩ | ⟨c, t, hc, heq'⟩
      · exact absurd hlo hhex'
      · rw [heq', unescape, if_pos rfl, hc]
        cases hexValue hi <;> rfl
    · rw [heq, unescape_eq_none hc]
  | case4 rest hshort =>
    rw [escape_cons_of_keep h37]
    match rest with
    | [] => rfl
    | [hi] =>
      rcases escape_cons_cases keep hi [] with ⟨-, heq⟩ | ⟨c, t, hc, heq⟩
      · rw [heq]
        rfl
      · rw [heq, unescape_eq_none hc]
    | hi :: lo :: rest => exact absurd rfl (hshort hi lo rest)
  | case5 c rest hc ih =>
    by_cases hkept : keep c
    · rw [escape_cons_of_keep hkept, unescape_cons hc, ih]
    · have h43 : c ≠ 43 := by
        rintro rfl
        exact hkept (hkeep.marks 43 (by decide))
      change unescape ((if keep c then [c] else percent c) ++ escape keep rest) = _
      rw [if_neg hkept, unescape_percent, ih, if_neg h43]

variable {sep : UInt8}

section
variable (hsep : sep ∈ [38, 59, 61]) (s : Bytes)
include hsep

lemma Transparent.mem_escape_iff : sep ∈ escape keep s ↔ sep ∈ s := by
  have hmark : keep sep ∧ sep ≠ 37 ∧ isAlnum sep = false := by
    refine ⟨hkeep.marks sep (by grind), ?_⟩
    simp only [mem_cons, not_mem_nil, or_false] at hsep
    rcases hsep with rfl | rfl | rfl <;> decide
  constructor
  · grind [mem_escape]
  · intro h
    exact mem_flatMap.2 ⟨sep, h, by simp [hmark.1]⟩

lemma Transparent.cut_escape :
    cut sep (escape keep s) = (escape keep (cut sep s).1, (cut sep s).2.map (escape keep)) := by
  have hkept : keep sep := hkeep.marks sep (by grind)
  grind [cut_cases, cut_of_notMem, mem_escape_iff, escape_append, escape_cons_of_keep, cut_append]

lemma Transparent.splitOn_escape : (escape keep s).splitOn sep = (s.splitOn sep).map (escape keep) := by
  have hkept : keep sep := hkeep.marks sep (by grind)
  induction hn : s.length using Nat.strong_induction_on generalizing s with
  | _ n ih =>
    rcases cut_cases sep s with ⟨hs, -⟩ | ⟨a, b, ha, rfl, -⟩
    · rw [splitOn_of_notMem hs, splitOn_of_notMem (mt (hkeep.mem_escape_iff hsep s).1 hs)]
      rfl
    · have hb := ih b.length (by simp at hn; omega) b rfl
      rw [escape_append, escape_cons_of_keep hkept,
        splitOn_append_cons (mt (hkeep.mem_escape_iff hsep a).1 ha), splitOn_append_cons ha, hb]
      rfl

end

lemma Transparent.parsePair_escape (segment : Bytes) : parsePair (escape keep segment) = parsePair segment := by
  have hsemi : (escape keep segment).contains 59 = segment.contains 59 := by grind [mem_escape_iff]
  have hempty : (escape keep segment).isEmpty = segment.isEmpty := by
    cases segment with
    | nil => rfl
    | cons c s =>
      by_cases hc : keep c = true <;> simp [escape, hc, percent]
  have hvalue : unescape (((cut 61 segment).2.map (escape keep)).getD []) = unescape ((cut 61 segment).2.getD []) := by
    cases (cut 61 segment).2 with
    | none => rfl
    | some value => exact hkeep.unescape_escape value
  rw [parsePair, hsemi, hempty, hkeep.cut_escape (by decide), hkeep.unescape_escape, hvalue, parsePair]

lemma Transparent.parseQuery_escape (query : Bytes) : parseQuery (escape keep query) = parseQuery query := by
  rw [parseQuery, hkeep.splitOn_escape (by decide), filterMap_map, parseQuery]
  congr 1
  funext segment
  exact hkeep.parsePair_escape segment

end

variable {s : Bytes}

lemma formEscape_cases (h : c ∈ formEscape s) : c = 43 ∨ c = 37 ∨ formByte c := by
  obtain ⟨b, _, hc⟩ := mem_flatMap.1 h
  split at hc
  · exact .inl (mem_singleton.1 hc)
  split at hc
  · next hb => exact .inr (.inr (mem_singleton.1 hc ▸ hb))
  · have hlt := b.toNat_lt
    have halnum : ∀ d < 16, formByte (hexUpper d) := by decide
    grind [percent]

lemma notMem_formEscape (hc : c ≠ 43 ∧ c ≠ 37 ∧ formByte c = false) (s : Bytes) : c ∉ formEscape s := by
  grind [formEscape_cases]

lemma notMem_formPair (hc : c ≠ 43 ∧ c ≠ 37 ∧ formByte c = false) (heq : c ≠ 61) (e : Bytes × Bytes) :
    c ∉ formPair e := by
  grind [notMem_formEscape, formPair]

open List

lemma forall_mem_formSerialize (hform : ∀ c, formByte c → P c) (hmarks : ∀ c ∈ [37, 38, 43, 61], P c)
    (params : List (Bytes × Bytes)) : ∀ c ∈ formSerialize params, P c := by
  have hescape : ∀ s, ∀ c ∈ formEscape s, P c := by grind [formEscape_cases]
  have hpair : ∀ e, ∀ c ∈ formPair e, P c := by grind [formPair]
  rw [formSerialize]
  induction params with
  | nil => exact nofun
  | cons e params ih =>
    cases params with
    | nil => simpa [intercalate] using hpair e
    | cons e' params =>
      have hjoin : intercalate [38] ((e :: e' :: params).map formPair) =
          formPair e ++ 38 :: intercalate [38] ((e' :: params).map formPair) := by
        simp [intercalate]
      grind

lemma parsePair_formPair (e : Bytes × Bytes) : parsePair (formPair e) = some e := by
  have hsemi : (formPair e).contains 59 = false := by
    rw [Bool.eq_false_iff, ne_eq, contains_iff_mem]
    exact notMem_formPair (by decide) (by decide) e
  have hempty : (formPair e).isEmpty = false := by simp [formPair]
  rw [parsePair, hsemi, hempty, if_neg (by decide), formPair,
    cut_append (notMem_formEscape (by decide) e.1), Option.getD_some]
  simp only [unescape_formEscape]

lemma parseQuery_append_cons (a b : Bytes) : parseQuery (a ++ 38 :: b) = parseQuery a ++ parseQuery b := by
  grind [splitOnP_append_cons, parseQuery, splitOn]

lemma parseQuery_formSerialize (params : List (Bytes × Bytes)) : parseQuery (formSerialize params) = params := by
  by_cases hparams : params = []
  · subst hparams
    rfl
  · have hsep : ∀ segment ∈ params.map formPair, 38 ∉ segment := by
      rw [forall_mem_map]
      exact fun e _ => notMem_formPair (by decide) (by decide) e
    rw [parseQuery, formSerialize, splitOn_intercalate 38 hsep (by simpa using hparams), filterMap_map]
    refine (filterMap_congr fun e _ => parsePair_formPair e).trans ?_
    exact filterMap_some

def visible (c : UInt8) : Bool := 32 < c && c < 127

lemma hexValue_visible (h : hexValue c ≠ none) : visible c ∧ c ≠ 37 ∧ c ≠ 43 := by grind [hexValue, visible]

variable {v : Bytes}

lemma countP_visible_unescape (h : unescape s = some v) :
    v.countP visible + s.count 37 + s.count 43 ≤ s.countP visible := by
  fun_induction unescape s generalizing v with
  | case1 =>
    cases h
    simp
  | case2 hi lo rest h' l hl hh ih => grind [Option.map_eq_some_iff, hexValue_visible]
  | case3 hi lo rest hnone => cases h
  | case4 rest hshort => cases h
  | case5 c rest hc ih =>
    obtain ⟨v, hv, rfl⟩ := Option.map_eq_some_iff.1 h
    have := ih hv
    by_cases h43 : c = 43
    · have h32 : visible 32 = false ∧ visible 43 := by decide
      subst h43
      simp [h32]
      omega
    · simp [countP_cons, h43, hc]
      omega

lemma unescape_eq_self (h37 : 37 ∉ s) (h43 : 43 ∉ s) : unescape s = some s := by
  induction s with
  | nil => rfl
  | cons c s ih => grind [unescape_cons]

lemma countP_visible_value (segment : Bytes) :
    ((cut 61 segment).2.getD []).countP visible ≤ segment.countP visible := by
  rcases cut_cases 61 segment with ⟨_, heq⟩ | ⟨a, b, _, rfl, heq⟩
  all_goals grind

variable {e : Bytes × Bytes}

lemma parsePair_eq_some {segment : Bytes} (h : parsePair segment = some e) :
    59 ∉ segment ∧ unescape ((cut 61 segment).2.getD []) = some e.2 := by
  grind [parsePair]

lemma eq_of_mem_parseQuery {name : Bytes} (hname : 61 ∉ name ∧ 38 ∉ name) (he : e ∈ parseQuery (name ++ 61 :: v))
    (hcount : v.countP visible ≤ e.2.countP visible) : ∀ c ∈ v, c ∉ [37, 38, 43, 59] := by
  obtain ⟨segment, hsegment, hpair⟩ := mem_filterMap.1 he
  obtain ⟨hsemi, hvalue⟩ := parsePair_eq_some hpair
  have hle := countP_visible_unescape hvalue
  rcases cut_cases 38 v with ⟨hv, -⟩ | ⟨x, y, hx, rfl, -⟩
  · have hall : 38 ∉ name ++ 61 :: v := by simp [hname.2, hv]
    rw [splitOn_of_notMem hall, mem_singleton] at hsegment
    grind [cut_append]
  · -- the ampersand is visible, and no segment holds it
    have hamp : visible 38 := by decide
    have hsplit : name ++ 61 :: (x ++ 38 :: y) = (name ++ 61 :: x) ++ 38 :: y := by simp
    rw [hsplit, splitOn_append_cons (by simp [hname.2, hx])] at hsegment
    simp only [countP_append, countP_cons, hamp, if_true] at hcount
    rcases mem_cons.1 hsegment with rfl | hsegment
    · rw [cut_append hname.1, Option.getD_some] at hle
      omega
    · have hsub := (sublist_of_mem_splitOn hsegment).countP_le (p := visible)
      have := countP_visible_value segment
      omega

lemma parseQuery_pair {name value : Bytes} (hname : ∀ c ∈ name, c ∉ [37, 38, 43, 59, 61]) (hv : 38 ∉ v ∧ 59 ∉ v)
    (hvalue : unescape v = some value) : parseQuery (name ++ 61 :: v) = [(name, value)] := by
  have hnotMem : ∀ c ∈ [37, 38, 43, 59, 61], c ∉ name := fun c hc h => hname c h hc
  have hsemi : (name ++ 61 :: v).contains 59 = false := by grind
  have hempty : (name ++ 61 :: v).isEmpty = false := by simp
  have hall : 38 ∉ name ++ 61 :: v := by simp [hnotMem 38 (by decide), hv.1]
  rw [parseQuery, splitOn_of_notMem hall, filterMap_cons, parsePair, hsemi, hempty,
    if_neg (by decide), cut_append (hnotMem 61 (by decide)), Option.getD_some,
    unescape_eq_self (hnotMem 37 (by decide)) (hnotMem 43 (by decide)), hvalue]
  rfl

lemma fst_of_mem_parseQuery {name : Bytes} (hname : ∀ c ∈ name, c ∉ [37, 38, 43, 59, 61]) (hv : 38 ∉ v)
    (he : e ∈ parseQuery (name ++ 61 :: v)) : e.1 = name := by
  have hnotMem : ∀ c ∈ [37, 38, 43, 59, 61], c ∉ name := fun c hc h => hname c h hc
  have hall : 38 ∉ name ++ 61 :: v := by simp [hnotMem 38 (by decide), hv]
  rw [parseQuery, splitOn_of_notMem hall] at he
  grind [cut_append, unescape_eq_self, parsePair]

lemma rdropWhile_append {t : Bytes} {p : UInt8 → Bool} (ht : ∃ c ∈ t, p c = false) :
    (s ++ t).rdropWhile p = s ++ t.rdropWhile p := by
  have hne : (t.reverse.dropWhile p).isEmpty = false := by grind [dropWhile_eq_nil_iff]
  grind [dropWhile_append, rdropWhile]

lemma mem_tidy (h : c ∈ tidy s) : c ∈ s ∧ c ∉ [9, 10, 13, 35] := by
  rw [tidy] at h
  have hfilter : ∀ b ∈ (s.rdropWhile (· ≤ 32)).filter (fun c => !([9, 10, 13].contains c)),
      b ∈ s ∧ b ∉ [9, 10, 13] := by
    grind [List.rdropWhile_prefix]
  rcases cut_cases 35 ((s.rdropWhile (· ≤ 32)).filter fun c => !([9, 10, 13].contains c)) with
    ⟨hs, heq⟩ | ⟨a, b, ha, hs, heq⟩
  · grind
  · grind

lemma tidy_sublist (s : Bytes) : (tidy s).Sublist s := by
  have hsub : ((s.rdropWhile (· ≤ 32)).filter fun c => !([9, 10, 13].contains c)).Sublist s :=
    filter_sublist.trans ( List.rdropWhile_prefix _ s).sublist
  rw [tidy]
  rcases cut_cases 35 ((s.rdropWhile (· ≤ 32)).filter fun c => !([9, 10, 13].contains c)) with
    ⟨_, heq⟩ | ⟨a, b, _, hs, heq⟩
  all_goals grind [List.Sublist.trans]

lemma tidy_eq_self (hs : ∀ c ∈ s, 32 < c ∧ c ≠ 35) : tidy s = s := by
  have hdrop : s.rdropWhile (· ≤ 32) = s := by grind [rdropWhile_eq_self_iff, getLast_mem]
  have hfilter : s.filter (fun c => !([9, 10, 13].contains c)) = s := by grind [filter_eq_self]
  rw [tidy, hdrop, hfilter, cut_of_notMem fun h => (hs 35 h).2 rfl]

section
variable {words : List Bytes} (hwords : ∀ w ∈ words, w ∈ whiteSpace)
include hwords

lemma countP_visible_flatten : words.flatten.countP visible = 0 := by
  have hspace : ∀ w ∈ whiteSpace, w.countP visible = 0 := by decide
  grind [countP_flatten, sum_eq_zero]

lemma exists_filter_flatten : ∃ words' : List Bytes, (∀ w ∈ words', w ∈ whiteSpace) ∧
    words.flatten.filter (fun c => !([9, 10, 13].contains c)) = words'.flatten := by
  have hspace : ∀ w ∈ whiteSpace, w.filter (fun c => !([9, 10, 13].contains c)) ∈ [] :: whiteSpace := by decide +kernel
  induction words with
  | nil => exact ⟨[], by simp, rfl⟩
  | cons w words ih =>
    rw [forall_mem_cons] at hwords
    obtain ⟨words', hwords', heq⟩ := ih hwords.2
    rw [flatten_cons, filter_append, heq]
    rcases mem_cons.1 (hspace w hwords.1) with hw | hw
    · exact ⟨words', hwords', by rw [hw]; rfl⟩
    · exact ⟨_ :: words', forall_mem_cons.2 ⟨hw, hwords'⟩, rfl⟩

variable {t : Bytes}

lemma exists_rdropWhile_flatten (ht : t.rdropWhile (· ≤ 32) = t) :
    ∃ words' : List Bytes, (∀ w ∈ words', w ∈ whiteSpace) ∧
    (t ++ words.flatten).rdropWhile (· ≤ 32) = t ++ words'.flatten := by
  have hspace : ∀ w ∈ whiteSpace, (w.length = 1 ∧ ∀ c ∈ w, c ≤ 32) ∨ ∀ c ∈ w, 32 < c := by decide +kernel
  induction words using reverseRecOn with
  | nil => exact ⟨[], by simp, by simpa using ht⟩
  | append_singleton words w ih =>
    have hinit : ∀ w ∈ words, w ∈ whiteSpace := fun u hu => hwords u (by simp [hu])
    have hw := hwords w (by simp)
    rw [flatten_concat, ← append_assoc]
    rcases hspace w hw with ⟨hone, hshort⟩ | hlong
    · grind [length_eq_one_iff, rdropWhile_concat_pos]
    · obtain ⟨c, hc⟩ := exists_mem_of_ne_nil w (whiteSpace_ne_nil w hw)
      refine ⟨words ++ [w], hwords, ?_⟩
      have hself : w.rdropWhile (· ≤ 32) = w := by
        rw [rdropWhile_eq_self_iff]
        intro hne
        simpa using hlong _ (getLast_mem hne)
      rw [rdropWhile_append ⟨c, hc, by simpa using hlong c hc⟩, hself, flatten_concat, append_assoc]

lemma exists_tidy_append (ht : ∀ c ∈ t, c ∉ [9, 10, 13, 35]) (hlast : t.rdropWhile (· ≤ 32) = t) :
    ∃ words' : List Bytes, (∀ w ∈ words', w ∈ whiteSpace) ∧ tidy (t ++ words.flatten) = t ++ words'.flatten := by
  obtain ⟨words₁, hwords₁, hdrop⟩ := exists_rdropWhile_flatten hwords hlast
  obtain ⟨words₂, hwords₂, hfilter⟩ := exists_filter_flatten hwords₁
  refine ⟨words₂, hwords₂, ?_⟩
  have hkept : t.filter (fun c => !([9, 10, 13].contains c)) = t := by grind [filter_eq_self]
  have h35 : 35 ∉ t ++ words₂.flatten := by
    have hspace : ∀ w ∈ whiteSpace, 35 ∉ w := by decide
    grind
  rw [tidy, hdrop, filter_append, hkept, hfilter, cut_of_notMem h35]

end

lemma rawQuery_append {u q : Bytes} (hu : ∀ c ∈ u, 32 < c ∧ c ≠ 35 ∧ c ≠ 63) (hq : ∀ c ∈ q, 32 < c ∧ c ≠ 35)
    (hv : ∃ c ∈ v, 32 < c) : rawQuery (u ++ 63 :: (q ++ v)) = escape queryByte (q ++ tidy v) := by
  have hplain : ∀ c ∈ u ++ 63 :: q, 32 < c ∧ c ≠ 35 := by grind
  have hdrop : (u ++ 63 :: (q ++ v)).dropWhile (· ≤ 32) = u ++ 63 :: (q ++ v) := by
    cases u with
    | nil => rfl
    | cons c u => exact dropWhile_cons_of_neg (by simpa using (hu c mem_cons_self).1)
  have hkept : (u ++ 63 :: q).filter (fun c => !([9, 10, 13].contains c)) = u ++ 63 :: q := by
    rw [filter_eq_self]
    intro c hc
    have := (hplain c hc).1
    simp only [contains_cons, contains_nil, Bool.or_false, Bool.not_eq_true', Bool.or_eq_false_iff, beq_eq_false_iff_ne]
    grind
  have h35 : 35 ∉ u ++ 63 :: q := fun h => (hplain 35 h).2 rfl
  have h63 : 63 ∉ u := fun h => (hu 63 h).2.2 rfl
  have hsplit : u ++ 63 :: (q ++ v) = (u ++ 63 :: q) ++ v := by simp
  have hv' : ∃ c ∈ v, decide (c ≤ 32) = false := by simpa using hv
  rw [rawQuery, hdrop, hsplit, rdropWhile_append hv', filter_append, hkept, cut_append_left h35]
  change escape queryByte ((cut 63 (u ++ 63 :: q ++ tidy v)).2.getD []) = _
  rw [append_assoc, cons_append, cut_append h63, Option.getD_some]

end Orama.Lib.Url
