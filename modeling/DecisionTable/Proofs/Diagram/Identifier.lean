import DecisionTable.Proofs.Diagram.Reader
import Mathlib.Data.List.Basic

/-!
# Identifiers of diagrams

What a reader takes an identifier for. A quoted one stands for its text, in which backslashes and
line breaks look as they are written; a plain one stands for itself, save that a line break at its
end is not a part of it. So different ids have different identifiers, and different names unless they
differ in such a line break.
-/

namespace DecisionTable

open Dot

namespace Dot

variable {cs ds : List Char} {ts us : List Token}

/-- A text is read as tokens, whatever comes before it and after it. -/
def Lexes (cs : List Char) (ts : List Token) : Prop :=
  ∀ found, cs.foldlM step (.between, found) = some (.between, ts.reverse ++ found)

theorem Lexes.nil : Lexes [] [] := fun _ => rfl

theorem Lexes.append (h : Lexes cs ts) (h' : Lexes ds us) : Lexes (cs ++ ds) (ts ++ us) := by
  intro found
  rw [List.foldlM_append, h found, List.reverse_append, List.append_assoc]
  exact h' (ts.reverse ++ found)

theorem tokens?_of_lexes (h : Lexes cs ts) : tokens? cs = some ts := by
  simp [tokens?, h []]

/-! ### Quoted identifiers -/

/-- How a reader takes a character of a quoted text. -/
def shownChar (c : Char) : List Char :=
  if c == '"' then [c] else Diagram.escapeChar c

theorem foldlM_escapeChar (c : Char) (cs : List Char) (found : List Token) :
    (Diagram.escapeChar c).foldlM step (.quoted cs, found)
      = some (.quoted ((shownChar c).reverse ++ cs), found) := by
  by_cases hbackslash : c = '\\'
  · subst hbackslash
    rfl
  · by_cases hquote : c = '"'
    · subst hquote
      rfl
    · by_cases hbreak : c = '\n'
      · subst hbreak
        rfl
      · simp [shownChar, Diagram.escapeChar, step, hbackslash, hquote, hbreak]

theorem foldlM_escaped (cs read : List Char) (found : List Token) :
    (cs.flatMap Diagram.escapeChar).foldlM step (.quoted read, found)
      = some (.quoted ((cs.flatMap shownChar).reverse ++ read), found) := by
  induction cs generalizing read with
  | nil => rfl
  | cons c cs ih =>
    rw [List.flatMap_cons, List.flatMap_cons, List.foldlM_append, foldlM_escapeChar]
    rw [List.reverse_append, List.append_assoc]
    exact ih ((shownChar c).reverse ++ read)

theorem lexes_quotedChars (cs : List Char) :
    Lexes (Diagram.quotedChars cs) [.name (String.ofList (cs.flatMap shownChar))] := by
  intro found
  have hopen : step (.between, found) '"' = some (.quoted [], found) := rfl
  unfold Diagram.quotedChars
  rw [List.foldlM_cons, hopen]
  show (cs.flatMap Diagram.escapeChar ++ ['"']).foldlM step (.quoted [], found) = _
  rw [List.foldlM_append, foldlM_escaped]
  simp [step]

theorem shownChar_cases (c : Char) :
    c = '\\' ∧ shownChar c = ['\\', '\\'] ∨ c = '\n' ∧ shownChar c = ['\\', 'n'] ∨
      (c ≠ '\\' ∧ c ≠ '\n') ∧ shownChar c = [c] := by
  by_cases hbackslash : c = '\\'
  · exact Or.inl ⟨hbackslash, by rw [hbackslash]; rfl⟩
  · by_cases hbreak : c = '\n'
    · exact Or.inr (Or.inl ⟨hbreak, by rw [hbreak]; rfl⟩)
    · refine Or.inr (Or.inr ⟨⟨hbackslash, hbreak⟩, ?_⟩)
      simp only [shownChar, Diagram.escapeChar, beq_iff_eq, hbackslash, hbreak, if_false]
      split <;> rfl

theorem shownChar_append_inj {c d : Char} {xs ys : List Char}
    (h : shownChar c ++ xs = shownChar d ++ ys) : c = d ∧ xs = ys := by
  rcases shownChar_cases c with ⟨rfl, hc⟩ | ⟨rfl, hc⟩ | ⟨hc', hc⟩
  · rcases shownChar_cases d with ⟨rfl, hd⟩ | ⟨rfl, hd⟩ | ⟨hd', hd⟩
    · exact ⟨rfl, List.append_cancel_left h⟩
    · rw [hc, hd] at h
      simp at h
    · rw [hc, hd] at h
      exact (hd'.1 (List.cons.inj h).1.symm).elim
  · rcases shownChar_cases d with ⟨rfl, hd⟩ | ⟨rfl, hd⟩ | ⟨hd', hd⟩
    · rw [hc, hd] at h
      simp at h
    · exact ⟨rfl, List.append_cancel_left h⟩
    · rw [hc, hd] at h
      exact (hd'.1 (List.cons.inj h).1.symm).elim
  · rcases shownChar_cases d with ⟨rfl, hd⟩ | ⟨rfl, hd⟩ | ⟨hd', hd⟩
    · rw [hc, hd] at h
      exact (hc'.1 (List.cons.inj h).1).elim
    · rw [hc, hd] at h
      exact (hc'.1 (List.cons.inj h).1).elim
    · rw [hc, hd] at h
      exact List.cons.inj h

theorem shownChar_ne_nil (c : Char) : shownChar c ≠ [] := by
  rcases shownChar_cases c with ⟨_, hc⟩ | ⟨_, hc⟩ | ⟨_, hc⟩ <;> simp [hc]

/-- What is shown of a quoted text tells the text. -/
theorem shown_inj (h : cs.flatMap shownChar = ds.flatMap shownChar) : cs = ds := by
  induction cs generalizing ds with
  | nil =>
    cases ds with
    | nil => rfl
    | cons d ds =>
      rw [List.flatMap_cons] at h
      exact (shownChar_ne_nil d (List.append_eq_nil_iff.mp h.symm).1).elim
  | cons c cs ih =>
    cases ds with
    | nil =>
      rw [List.flatMap_cons] at h
      exact (shownChar_ne_nil c (List.append_eq_nil_iff.mp h).1).elim
    | cons d ds =>
      rw [List.flatMap_cons, List.flatMap_cons] at h
      obtain ⟨rfl, hrest⟩ := shownChar_append_inj h
      rw [ih hrest]

/-- A text of which no backslash is shown is shown as it is. -/
theorem shown_eq_self (h : '\\' ∉ cs.flatMap shownChar) : cs.flatMap shownChar = cs := by
  induction cs with
  | nil => rfl
  | cons c cs ih =>
    rw [List.flatMap_cons, List.mem_append, not_or] at h
    rw [List.flatMap_cons, ih h.2]
    rcases shownChar_cases c with ⟨_, hc⟩ | ⟨_, hc⟩ | ⟨_, hc⟩
    · exact (h.1 (by simp [hc])).elim
    · exact (h.1 (by simp [hc])).elim
    · rw [hc, List.singleton_append]

/-! ### Plain identifiers -/

theorem isWhitespace_of_isNameStart {c : Char} (h : Diagram.isNameStart c = true) :
    c.isWhitespace = false := by
  by_contra hspace
  simp only [Char.isWhitespace, Bool.or_eq_true, decide_eq_true_eq, Bool.not_eq_false] at hspace
  rcases hspace with ((rfl | rfl) | rfl) | rfl
  · cases h
  · cases h
  · cases h
  · cases h

def isNamePart (c : Char) : Bool :=
  Diagram.isNameStart c || c.isDigit

/-- Whether the characters are a plain name, with nothing behind it. -/
def isName : List Char → Bool
  | [] => false
  | c :: rest => Diagram.isNameStart c && rest.all isNamePart

theorem isPlainName_eq (cs : List Char) :
    Diagram.isPlainName cs = isName (Literal.dropLineBreak cs) := rfl

theorem isNamePart_of_mem (h : isName cs = true) {c : Char} (hc : c ∈ cs) : isNamePart c = true := by
  cases cs with
  | nil => cases hc
  | cons d rest =>
    simp only [isName, Bool.and_eq_true, List.all_eq_true] at h
    rcases List.mem_cons.mp hc with rfl | hc
    · simp only [isNamePart, h.1, Bool.true_or]
    · exact h.2 c hc

theorem dropLineBreak_of_isName (h : isName cs = true) : Literal.dropLineBreak cs = cs := by
  rcases Literal.dropLineBreak_cases cs with hsame | hbreak
  · exact hsame
  · have hmem : '\n' ∈ cs := by
      rw [hbreak]
      simp
    cases isNamePart_of_mem h hmem

theorem foldlM_word (h : cs.all isNamePart = true) (read : List Char) (found : List Token) :
    cs.foldlM step (.word read, found) = some (.word (cs.reverse ++ read), found) := by
  induction cs generalizing read with
  | nil => rfl
  | cons c cs ih =>
    rw [List.all_cons, Bool.and_eq_true] at h
    have hgoes : (isWordStart c || c.isDigit) = true := by
      have hpart : (Diagram.isNameStart c || c.isDigit) = true := h.1
      unfold isWordStart
      rw [Bool.or_right_comm, hpart, Bool.true_or]
    have hstep : step (.word read, found) c = some (.word (c :: read), found) := by
      simp only [step, hgoes, if_true]
    rw [List.foldlM_cons, hstep, List.reverse_cons, List.append_assoc]
    exact ih h.2 (c :: read)

/-- A plain name ends where the space behind it does. -/
theorem lexes_isName (h : isName cs = true) {space : Char} (hspace : space = ' ' ∨ space = '\n') :
    Lexes (cs ++ [space]) [wordToken cs] := by
  intro found
  cases cs with
  | nil => cases h
  | cons c rest =>
    simp only [isName, Bool.and_eq_true] at h
    have hbegin : step (.between, found) c = some (.word [c], found) := by
      simp [step, begin, isWhitespace_of_isNameStart h.1, isWordStart, h.1]
    have hend : step (.word (rest.reverse ++ [c]), found) space
        = some (.between, wordToken (c :: rest) :: found) := by
      have hread : (rest.reverse ++ [c]).reverse = c :: rest := by simp
      rcases hspace with rfl | rfl
      · rw [← hread]
        rfl
      · rw [← hread]
        rfl
    rw [List.cons_append, List.foldlM_cons, hbegin]
    show (rest ++ [space]).foldlM step (.word [c], found) = _
    rw [List.foldlM_append, foldlM_word h.2]
    show [space].foldlM step (.word (rest.reverse ++ [c]), found) = _
    rw [List.foldlM_cons, hend]
    rfl

/-! ### Identifiers of nodes -/

/-- The token that a reader takes the identifier of an id for. -/
def idToken (id : String) : Token :=
  if Diagram.isPlainName id.toList then wordToken (Literal.dropLineBreak id.toList)
  else .name (String.ofList (id.toList.flatMap shownChar))

/-- The name that a reader takes from the identifier of an id. -/
def idName (id : String) : String :=
  if Diagram.isPlainName id.toList then String.ofList (Literal.dropLineBreak id.toList)
  else String.ofList (id.toList.flatMap shownChar)

/-- An id without the line break that may follow a plain name. -/
def bareId (id : String) : String :=
  if Diagram.isPlainName id.toList then String.ofList (Literal.dropLineBreak id.toList) else id

/-- An id is a word of the language, with a line break behind it or not. -/
def IsReserved (id : String) : Prop :=
  Diagram.isPlainName id.toList = true ∧
    String.ofList ((Literal.dropLineBreak id.toList).map Char.toLower) ∈ keywords

instance (id : String) : Decidable (IsReserved id) :=
  inferInstanceAs (Decidable (_ ∧ _))

variable {id id' : String}

theorem lexes_identifier (id : String) :
    Lexes ((Diagram.identifier id).toList ++ [' ']) [idToken id] := by
  have hspace : Lexes [' '] [] := fun _ => rfl
  unfold Diagram.identifier idToken
  cases hplain : Diagram.isPlainName id.toList with
  | false =>
    rw [if_neg Bool.false_ne_true, if_neg Bool.false_ne_true, Diagram.quoted, String.toList_ofList]
    exact (lexes_quotedChars id.toList).append hspace
  | true =>
    rw [if_pos rfl, if_pos rfl]
    rw [isPlainName_eq] at hplain
    rcases Literal.dropLineBreak_cases id.toList with hsame | hbreak
    · rw [hsame] at hplain ⊢
      exact lexes_isName hplain (Or.inl rfl)
    · have hread := (lexes_isName hplain (Or.inr rfl)).append hspace
      rw [← hbreak] at hread
      exact hread

theorem idToken_eq_name (h : ¬ IsReserved id) : idToken id = .name (idName id) := by
  unfold idToken idName
  cases hplain : Diagram.isPlainName id.toList with
  | false => rfl
  | true =>
    have hword : ¬ keywords.contains
        (String.ofList ((Literal.dropLineBreak id.toList).map Char.toLower)) = true :=
      fun hword => h ⟨hplain, List.contains_iff_mem.mp hword⟩
    exact if_neg hword

theorem idToken_eq_keyword (h : IsReserved id) : ∃ word, idToken id = .keyword word := by
  obtain ⟨hplain, hword⟩ := h
  refine ⟨String.ofList ((Literal.dropLineBreak id.toList).map Char.toLower), ?_⟩
  unfold idToken
  rw [if_pos hplain]
  exact if_pos (List.contains_iff_mem.mpr hword)

/-- A quoted text is not shown as a plain name. -/
theorem shown_ne_name (hplain : Diagram.isPlainName id.toList = true)
    (hquoted : ¬ Diagram.isPlainName id'.toList = true) :
    Literal.dropLineBreak id.toList ≠ id'.toList.flatMap shownChar := by
  intro h
  rw [isPlainName_eq] at hplain hquoted
  have hshown : '\\' ∉ id'.toList.flatMap shownChar := by
    intro hmem
    rw [← h] at hmem
    cases isNamePart_of_mem hplain hmem
  rw [shown_eq_self hshown] at h
  rw [h] at hplain
  rw [dropLineBreak_of_isName hplain] at hquoted
  exact hquoted hplain

theorem isPlainName_bareId (id : String) :
    Diagram.isPlainName (bareId id).toList = Diagram.isPlainName id.toList := by
  unfold bareId
  cases hplain : Diagram.isPlainName id.toList with
  | false => exact hplain
  | true =>
    rw [isPlainName_eq] at hplain
    rw [if_pos rfl, String.toList_ofList, isPlainName_eq, dropLineBreak_of_isName hplain]
    exact hplain

/-- Ids have one name if they are the same without the line break behind a plain name. -/
theorem idName_inj : idName id = idName id' ↔ bareId id = bareId id' := by
  by_cases hplain : Diagram.isPlainName id.toList = true
  · by_cases hplain' : Diagram.isPlainName id'.toList = true
    · simp only [idName, bareId, if_pos hplain, if_pos hplain']
    · have hnames : idName id ≠ idName id' := by
        simp only [idName, if_pos hplain, if_neg hplain']
        exact fun h => shown_ne_name hplain hplain' (String.ofList_injective h)
      have hbare : bareId id ≠ bareId id' := by
        intro h
        rw [← isPlainName_bareId, ← h, isPlainName_bareId] at hplain'
        exact hplain' hplain
      exact iff_of_false hnames hbare
  · by_cases hplain' : Diagram.isPlainName id'.toList = true
    · have hnames : idName id ≠ idName id' := by
        simp only [idName, if_neg hplain, if_pos hplain']
        exact fun h => shown_ne_name hplain' hplain (String.ofList_injective h).symm
      have hbare : bareId id ≠ bareId id' := by
        intro h
        rw [← isPlainName_bareId, h, isPlainName_bareId] at hplain
        exact hplain hplain'
      exact iff_of_false hnames hbare
    · simp only [idName, bareId, if_neg hplain, if_neg hplain']
      constructor
      · exact fun h => String.toList_inj.mp (shown_inj (String.ofList_injective h))
      · exact fun h => by rw [h]

theorem identifier_ne_quoted (hplain : Diagram.isPlainName id.toList = true) (s : String) :
    id ≠ Diagram.quoted s := by
  intro h
  have hquote : '"' ∈ id.toList := by
    rw [h, Diagram.quoted, String.toList_ofList]
    exact List.mem_cons_self ..
  rw [isPlainName_eq] at hplain
  rcases Literal.dropLineBreak_cases id.toList with hsame | hbreak
  · rw [hsame] at hplain
    cases isNamePart_of_mem hplain hquote
  · rw [hbreak, List.mem_append] at hquote
    rcases hquote with hquote | hquote
    · cases isNamePart_of_mem hplain hquote
    · cases List.mem_singleton.mp hquote

/-- The identifiers of different ids are different texts. -/
theorem identifier_inj (h : Diagram.identifier id = Diagram.identifier id') : id = id' := by
  unfold Diagram.identifier at h
  split at h
  · rename_i hplain
    split at h
    · exact h
    · exact (identifier_ne_quoted hplain _ h).elim
  · split at h
    · rename_i hplain
      exact (identifier_ne_quoted hplain _ h.symm).elim
    · have hchars := String.ofList_injective h
      have hread := lexes_quotedChars id.toList []
      rw [hchars, lexes_quotedChars id'.toList []] at hread
      simp only [List.reverse_singleton, List.singleton_append, Option.some.injEq, Prod.mk.injEq,
        List.cons.injEq, Token.name.injEq, true_and, and_true] at hread
      exact (String.toList_inj.mp (shown_inj (String.ofList_injective hread))).symm

end Dot

end DecisionTable
