import DecisionTable.Tree.Diagram
import Mathlib.Algebra.Ring.Parity
import Mathlib.Data.List.DropRight

/-!
# Quoted texts of diagrams

A quoted text stands on one line, it ends at its last quote and nowhere before, and reading it from
left to right gives back the text. A quote within stands behind an odd number of backslashes, and
an even number of them stands before the last quote, since backslashes of the text itself come in
pairs.
-/

namespace DecisionTable

namespace Diagram

/-- What is written between the quotes of a quoted text. -/
def quotedBody (cs : List Char) : List Char :=
  cs.flatMap escapeChar

/-- The text with others characters in place of each occurrence of a character. -/
def replaceEach (c : Char) (others : List Char) (cs : List Char) : List Char :=
  cs.flatMap fun d => if d == c then others else [d]

/-- The number of backslashes at the end. -/
def backslashesAtEnd (cs : List Char) : Nat :=
  (cs.rtakeWhile (· == '\\')).length

/-- What a character behind a backslash stands for. -/
def unescape? : Char → Option Char
  | '\\' => some '\\'
  | '"' => some '"'
  | 'n' => some '\n'
  | _ => none

/-- Reads a quoted text from behind its first quote on: the text, and what is left behind the quote
that ends it. -/
def readBody? : List Char → Option (List Char × List Char)
  | [] => none
  | '\\' :: c :: rest => do
    let d ← unescape? c
    let (cs, left) ← readBody? rest
    some (d :: cs, left)
  | c :: rest =>
    if c == '"' then some ([], rest)
    else if c == '\\' || c == '\n' then none
    else (readBody? rest).map fun (cs, left) => (c :: cs, left)

/-- Reads a quoted text: the text, and what is left behind it. -/
def readQuoted? : List Char → Option (List Char × List Char)
  | '"' :: rest => readBody? rest
  | _ => none

variable {c d : Char} {cs before after left rest : List Char}

/-! ### Single characters -/

theorem escapeChar_plain (hbackslash : c ≠ '\\') (hquote : c ≠ '"') (hbreak : c ≠ '\n') :
    escapeChar c = [c] := by
  simp [escapeChar, hbackslash, hquote, hbreak]

theorem escapeChar_cases (c : Char) :
    (∃ d, unescape? d = some c ∧ escapeChar c = ['\\', d]) ∨
      (c ≠ '\\' ∧ c ≠ '"' ∧ c ≠ '\n') ∧ escapeChar c = [c] := by
  by_cases hbackslash : c = '\\'
  · exact Or.inl ⟨'\\', by rw [hbackslash]; rfl, by rw [hbackslash]; rfl⟩
  · by_cases hquote : c = '"'
    · exact Or.inl ⟨'"', by rw [hquote]; rfl, by rw [hquote]; rfl⟩
    · by_cases hbreak : c = '\n'
      · exact Or.inl ⟨'n', by rw [hbreak]; rfl, by rw [hbreak]; rfl⟩
      · exact Or.inr ⟨⟨hbackslash, hquote, hbreak⟩, escapeChar_plain hbackslash hquote hbreak⟩

theorem escapeChar_of_unescape? (h : unescape? d = some c) : escapeChar c = ['\\', d] := by
  unfold unescape? at h
  split at h
  · obtain rfl := Option.some.inj h
    rfl
  · obtain rfl := Option.some.inj h
    rfl
  · obtain rfl := Option.some.inj h
    rfl
  · cases h

theorem ne_break_of_unescape? (h : unescape? d = some c) : d ≠ '\n' := by
  rintro rfl
  cases h

theorem quotedBody_cons (c : Char) (cs : List Char) :
    quotedBody (c :: cs) = escapeChar c ++ quotedBody cs :=
  List.flatMap_cons

theorem quotedBody_concat (cs : List Char) (c : Char) :
    quotedBody (cs ++ [c]) = quotedBody cs ++ escapeChar c := by
  simp [quotedBody]

theorem toList_quoted (s : String) :
    (quoted s).toList = '"' :: (quotedBody s.toList ++ ['"']) := by
  rw [quoted, String.toList_ofList]
  rfl

theorem break_notMem_body (cs : List Char) : '\n' ∉ quotedBody cs := by
  unfold quotedBody
  rw [List.mem_flatMap]
  rintro ⟨c, _, hmem⟩
  rcases escapeChar_cases c with ⟨d, hd, hc⟩ | ⟨⟨_, _, hbreak⟩, hc⟩
  · rw [hc] at hmem
    have hne := ne_break_of_unescape? hd
    simp [hne.symm] at hmem
  · rw [hc, List.mem_singleton] at hmem
    exact hbreak hmem.symm

/-! ### Replacing characters one after the other -/

/-- Backslashes are replaced first, so those that come with quotes and line breaks stay. -/
theorem quotedBody_eq_replaced (cs : List Char) :
    quotedBody cs = replaceEach '\n' ['\\', 'n']
      (replaceEach '"' ['\\', '"'] (replaceEach '\\' ['\\', '\\'] cs)) := by
  unfold quotedBody replaceEach
  rw [List.flatMap_assoc, List.flatMap_assoc]
  refine List.flatMap_congr ?_
  intro c _
  by_cases hbackslash : c = '\\'
  · subst hbackslash
    rfl
  · by_cases hquote : c = '"'
    · subst hquote
      rfl
    · by_cases hbreak : c = '\n'
      · subst hbreak
        rfl
      · simp [escapeChar, hbackslash, hquote, hbreak]

/-! ### Runs of backslashes -/

theorem backslashesAtEnd_concat (cs : List Char) (c : Char) :
    backslashesAtEnd (cs ++ [c]) = if c = '\\' then backslashesAtEnd cs + 1 else 0 := by
  unfold backslashesAtEnd
  rw [List.rtakeWhile_concat]
  by_cases hc : c = '\\'
  · simp [hc]
  · simp [hc]

/-- The backslashes of a text are written in pairs. -/
theorem even_backslashesAtEnd (cs : List Char) : Even (backslashesAtEnd (quotedBody cs)) := by
  induction cs using List.reverseRecOn with
  | nil => exact Even.zero
  | append_singleton cs c ih =>
    rw [quotedBody_concat]
    rcases escapeChar_cases c with ⟨d, hd, hc⟩ | ⟨⟨hbackslash, _, _⟩, hc⟩
    · have hpair : quotedBody cs ++ ['\\', d] = quotedBody cs ++ ['\\'] ++ [d] := by simp
      rw [hc, hpair, backslashesAtEnd_concat]
      split
      · rw [backslashesAtEnd_concat, if_pos rfl]
        exact ih.add even_two
      · exact Even.zero
    · rw [hc, backslashesAtEnd_concat, if_neg hbackslash]
      exact Even.zero

theorem append_eq_of_notMem {p q : List Char} (hp : '"' ∉ p) (h : p ++ q = before ++ '"' :: after) :
    ∃ between, before = p ++ between ∧ q = between ++ '"' :: after := by
  rcases List.append_eq_append_iff.mp h with ⟨between, hbefore, hq⟩ | ⟨between, hbefore, hafter⟩
  · exact ⟨between, hbefore, hq⟩
  · cases between with
    | nil =>
      rw [List.append_nil] at hbefore
      exact ⟨[], by rw [List.append_nil, hbefore], hafter.symm⟩
    | cons c between =>
      obtain ⟨rfl, _⟩ := List.cons.inj hafter
      exact absurd (by simp [hbefore]) hp

/-- Each quote within is that of a quote of the text. -/
theorem exists_quote (h : quotedBody cs = before ++ '"' :: after) :
    ∃ xs ys, cs = xs ++ '"' :: ys ∧ before = quotedBody xs ++ ['\\'] ∧ after = quotedBody ys := by
  induction cs generalizing before with
  | nil => exact absurd h (by simp [quotedBody])
  | cons c cs ih =>
    have hlater : ∀ between, before = escapeChar c ++ between →
        quotedBody cs = between ++ '"' :: after →
        ∃ xs ys, c :: cs = xs ++ '"' :: ys ∧ before = quotedBody xs ++ ['\\'] ∧
          after = quotedBody ys := by
      rintro between rfl hbetween
      obtain ⟨xs, ys, rfl, rfl, hafter⟩ := ih hbetween
      exact ⟨c :: xs, ys, rfl, by rw [quotedBody_cons, List.append_assoc], hafter⟩
    rw [quotedBody_cons] at h
    by_cases hquote : c = '"'
    · -- the quote is that of the first character, or it comes later
      subst hquote
      have hescape : escapeChar '"' = ['\\'] ++ ['"'] := rfl
      rw [hescape, List.append_assoc] at h
      obtain ⟨between, rfl, hbetween⟩ := append_eq_of_notMem (by decide) h
      cases between with
      | nil =>
        exact ⟨[], cs, rfl, rfl, (List.cons.inj hbetween).2.symm⟩
      | cons d between =>
        obtain ⟨rfl, hrest⟩ := List.cons.inj hbetween
        exact hlater between rfl hrest
    · have hnone : '"' ∉ escapeChar c := by
        rcases escapeChar_cases c with ⟨d, hd, hc⟩ | ⟨_, hc⟩
        · rw [hc]
          intro hmem
          obtain rfl : '"' = d := by simpa using hmem
          exact hquote (Option.some.inj hd).symm
        · rw [hc, List.mem_singleton]
          exact Ne.symm hquote
      obtain ⟨between, hbefore, hbetween⟩ := append_eq_of_notMem hnone h
      exact hlater between hbefore hbetween

theorem odd_backslashes_before_quote (h : quotedBody cs = before ++ '"' :: after) :
    Odd (backslashesAtEnd before) := by
  obtain ⟨xs, _, _, rfl, _⟩ := exists_quote h
  rw [backslashesAtEnd_concat, if_pos rfl]
  exact (even_backslashesAtEnd xs).add_one

/-! ### Reading -/

theorem readBody?_escaped (h : unescape? d = some c) (rest : List Char) :
    readBody? ('\\' :: d :: rest) = (readBody? rest).map fun (cs, left) => (c :: cs, left) := by
  simp only [readBody?, h]
  cases readBody? rest <;> rfl

theorem readBody?_plain (hbackslash : c ≠ '\\') (hquote : c ≠ '"') (hbreak : c ≠ '\n')
    (rest : List Char) :
    readBody? (c :: rest) = (readBody? rest).map fun (cs, left) => (c :: cs, left) := by
  rw [readBody?]
  · simp [hbackslash, hquote, hbreak]
  · rintro d rest rfl
    exact absurd rfl hbackslash

theorem readBody?_quotedBody (cs left : List Char) :
    readBody? (quotedBody cs ++ '"' :: left) = some (cs, left) := by
  induction cs with
  | nil => rfl
  | cons c cs ih =>
    rw [quotedBody_cons, List.append_assoc]
    rcases escapeChar_cases c with ⟨d, hd, hc⟩ | ⟨⟨hbackslash, hquote, hbreak⟩, hc⟩
    · rw [hc]
      show readBody? ('\\' :: d :: (quotedBody cs ++ '"' :: left)) = _
      rw [readBody?_escaped hd, ih]
      rfl
    · rw [hc]
      show readBody? (c :: (quotedBody cs ++ '"' :: left)) = _
      rw [readBody?_plain hbackslash hquote hbreak, ih]
      rfl

/-- Nothing else is read as a quoted text. -/
theorem eq_of_readBody? (h : readBody? rest = some (cs, left)) :
    rest = quotedBody cs ++ '"' :: left := by
  induction rest using readBody?.induct generalizing cs with
  | case1 => cases h
  | case2 d rest ih =>
    simp only [readBody?, Option.bind_eq_bind, Option.bind_eq_some_iff] at h
    obtain ⟨c, hd, ⟨xs, more⟩, hread, heq⟩ := h
    obtain ⟨rfl, rfl⟩ := Prod.mk.inj (Option.some.inj heq)
    rw [ih hread, quotedBody_cons, escapeChar_of_unescape? hd]
    rfl
  | case3 c rest hshort hquote =>
    rw [readBody?, if_pos hquote] at h
    · obtain ⟨rfl, rfl⟩ := Prod.mk.inj (Option.some.inj h)
      rw [eq_of_beq hquote]
      rfl
    · exact hshort
  | case4 c rest hshort hquote hnone =>
    rw [readBody?, if_neg hquote, if_pos hnone] at h
    · cases h
    · exact hshort
  | case5 c rest hshort hquote hplain ih =>
    simp only [Bool.or_eq_true, beq_iff_eq, not_or] at hquote hplain
    rw [readBody?_plain hplain.1 hquote hplain.2, Option.map_eq_some_iff] at h
    obtain ⟨⟨xs, more⟩, hread, heq⟩ := h
    obtain ⟨rfl, rfl⟩ := Prod.mk.inj heq
    rw [ih hread, quotedBody_cons, escapeChar_plain hplain.1 hquote hplain.2]
    rfl

theorem readQuoted?_eq_some {s : List Char} :
    readQuoted? cs = some (s, left) ↔ cs = '"' :: (quotedBody s ++ ['"']) ++ left := by
  have hform : '"' :: (quotedBody s ++ ['"']) ++ left = '"' :: (quotedBody s ++ '"' :: left) := by
    simp
  rw [hform]
  constructor
  · intro h
    unfold readQuoted? at h
    split at h
    · rw [eq_of_readBody? h]
    · cases h
  · rintro rfl
    exact readBody?_quotedBody s left

/-- A quoted text stands on one line between two quotes. Any quote within stands behind an odd
number of backslashes and the last one behind an even number, so reading goes on to the last quote.
It gives back the text whatever comes behind, and nothing else is read as that text. -/
theorem readQuoted?_quoted (s : String) :
    ∃ body, (quoted s).toList = '"' :: (body ++ ['"']) ∧
      '\n' ∉ (quoted s).toList ∧
      (∀ before after, body = before ++ '"' :: after → Odd (backslashesAtEnd before)) ∧
      ¬ Odd (backslashesAtEnd body) ∧
      body = replaceEach '\n' ['\\', 'n']
        (replaceEach '"' ['\\', '"'] (replaceEach '\\' ['\\', '\\'] s.toList)) ∧
      (∀ cs left, readQuoted? cs = some (s.toList, left) ↔ cs = (quoted s).toList ++ left) ∧
      ∀ s', quoted s' = quoted s ↔ s' = s := by
  have hread : ∀ cs left,
      readQuoted? cs = some (s.toList, left) ↔ cs = (quoted s).toList ++ left := by
    intro cs left
    rw [toList_quoted]
    exact readQuoted?_eq_some
  refine ⟨quotedBody s.toList, toList_quoted s, ?_, ?_, ?_, quotedBody_eq_replaced s.toList, hread,
    ?_⟩
  · rw [toList_quoted]
    simp [break_notMem_body]
  · exact fun before after h => odd_backslashes_before_quote h
  · exact Nat.not_odd_iff_even.mpr (even_backslashesAtEnd s.toList)
  · intro s'
    refine ⟨?_, congrArg quoted⟩
    intro hsame
    have hthis := (hread (quoted s).toList []).mpr (List.append_nil _).symm
    rw [← hsame, toList_quoted] at hthis
    have hother : readQuoted? ('"' :: (quotedBody s'.toList ++ ['"'])) = some (s'.toList, []) :=
      readQuoted?_eq_some.mpr (List.append_nil _).symm
    have hchars : s'.toList = s.toList :=
      (Prod.mk.inj (Option.some.inj (hother.symm.trans hthis))).1
    exact String.toList_inj.mp hchars

/-- A pattern with a quote and a line break, and what comes behind it in a diagram. -/
theorem readQuoted?_quoted_pattern :
    (quoted "\\d\"\n+").toList = ['"', '\\', '\\', 'd', '\\', '"', '\\', 'n', '+', '"'] ∧
    Odd (backslashesAtEnd ['\\', '\\', 'd', '\\']) ∧
    readQuoted? ((quoted "\\d\"\n+").toList ++ [']', ';'])
      = some (['\\', 'd', '"', '\n', '+'], [']', ';']) := by
  obtain ⟨body, hquoted, _, hodd, _, _, hread, _⟩ := readQuoted?_quoted "\\d\"\n+"
  have hchars : (quoted "\\d\"\n+").toList
      = ['"', '\\', '\\', 'd', '\\', '"', '\\', 'n', '+', '"'] := by decide
  have hbody : body = ['\\', '\\', 'd', '\\'] ++ '"' :: ['\\', 'n', '+'] := by
    have hboth := hquoted.symm.trans hchars
    have hclose : body ++ ['"'] = (['\\', '\\', 'd', '\\'] ++ '"' :: ['\\', 'n', '+']) ++ ['"'] :=
      (List.cons.inj hboth).2
    exact List.append_cancel_right hclose
  exact ⟨hchars, hodd _ _ hbody, (hread _ _).mpr rfl⟩

end Diagram

end DecisionTable
