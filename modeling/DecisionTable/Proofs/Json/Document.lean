import DecisionTable.Proofs.Json.Text

/-!
# Documents in JSON

A document of texts, lists and objects is read back from its JSON form, if no object has two members
of one name. So its form tells the document.
-/

namespace DecisionTable

namespace Json

/-- A document of texts, lists and objects with distinct names. -/
inductive Plain : Json → Prop where
  | string (s : String) : Plain (.string s)
  | array (items : List Json) (hitems : ∀ j ∈ items, Plain j) : Plain (.array items)
  | object (members : List (String × Json)) (hnames : (members.map (·.1)).Nodup)
      (hmembers : ∀ m ∈ members, Plain m.2) : Plain (.object members)

variable {d : Json} {items done : List Json} {members before : List (String × Json)}
  {s name : String} {fuel : Nat} {rest : List Char}

/-! ### What is written -/

theorem printItems_eq (items : List Json) : printItems items = items.map print := by
  induction items with
  | nil => rfl
  | cons item items ih => rw [printItems, ih, List.map_cons]

theorem printMembers_eq (members : List (String × Json)) :
    printMembers members = members.map fun m => printText m.1 ++ ": " ++ m.2.print := by
  induction members with
  | nil => rfl
  | cons m members ih =>
    obtain ⟨name, value⟩ := m
    rw [printMembers, ih, List.map_cons]

def separated (parts : List String) : List Char :=
  [',', ' '].intercalate (parts.map String.toList)

def memberText (m : String × Json) : String :=
  printText m.1 ++ ": " ++ m.2.print

theorem toList_array (items : List Json) :
    (print (.array items)).toList = '[' :: (separated (items.map print) ++ [']']) := by
  rw [print, printItems_eq, String.toList_append, String.toList_append, String.toList_intercalate]
  rfl

theorem toList_object (members : List (String × Json)) :
    (print (.object members)).toList = '{' :: (separated (members.map memberText) ++ ['}']) := by
  rw [print, printMembers_eq, String.toList_append, String.toList_append,
    String.toList_intercalate]
  rfl

theorem toList_member (name : String) (value : Json) :
    (memberText (name, value)).toList
      = (printText name).toList ++ ':' :: ' ' :: value.print.toList := by
  simp [memberText]

theorem separated_singleton (part : String) : separated [part] = part.toList :=
  List.intercalate_singleton

theorem separated_cons (part next : String) (parts : List String) :
    separated (part :: next :: parts)
      = part.toList ++ ',' :: ' ' :: separated (next :: parts) := by
  simp only [separated, List.map_cons, List.intercalate_cons_cons, List.append_assoc]
  rfl

/-! ### The first character -/

/-- Text that goes on with a character that neither is a space nor closes anything. -/
def Opens (cs : List Char) : Prop :=
  ∃ c rest, cs = c :: rest ∧ (c = '"' ∨ c = '[' ∨ c = '{')

theorem Opens.skipSpace {cs : List Char} (h : Opens cs) : skipSpace cs = cs := by
  obtain ⟨c, rest, rfl, hc⟩ := h
  rcases hc with rfl | rfl | rfl
  · rfl
  · rfl
  · rfl

theorem Opens.append {cs : List Char} (h : Opens cs) (rest : List Char) : Opens (cs ++ rest) := by
  obtain ⟨c, tail, rfl, hc⟩ := h
  exact ⟨c, tail ++ rest, rfl, hc⟩

theorem opens_printText (s : String) : Opens (printText s).toList := by
  rw [toList_printText]
  exact ⟨'"', _, rfl, Or.inl rfl⟩

theorem opens_member (m : String × Json) : Opens (memberText m).toList := by
  rw [toList_member m.1 m.2]
  exact (opens_printText m.1).append _

theorem Plain.opens (hd : d.Plain) : Opens d.print.toList := by
  cases hd with
  | string s => exact opens_printText s
  | array items =>
    rw [toList_array]
    exact ⟨'[', _, rfl, Or.inr (Or.inl rfl)⟩
  | object members =>
    rw [toList_object]
    exact ⟨'{', _, rfl, Or.inr (Or.inr rfl)⟩

theorem opens_separated {part : String} (parts : List String) (h : Opens part.toList) :
    Opens (separated (part :: parts)) := by
  cases parts with
  | nil =>
    rw [separated_singleton]
    exact h
  | cons next parts =>
    rw [separated_cons]
    exact h.append _

/-! ### Reading -/

/-- A document is read from its form whatever follows, with two steps for each character. -/
def ReadsBack (d : Json) : Prop :=
  ∀ fuel rest, 2 * d.print.toList.length ≤ fuel + 1 →
    readValue fuel (d.print.toList ++ rest) = .ok (d, rest)

theorem readsBack_string (s : String) : ReadsBack (.string s) := by
  intro fuel rest hfuel
  obtain ⟨body, hbody, hread⟩ := readText_printText s rest
  have hlength : 2 ≤ (print (.string s)).toList.length := by
    rw [print, toList_printText]
    simp
  obtain ⟨fuel, rfl⟩ : ∃ n, fuel = n + 1 := ⟨fuel - 1, by omega⟩
  rw [print, hbody]
  simp only [readValue, hread]

theorem Opens.length_pos {cs : List Char} (h : Opens cs) : 0 < cs.length := by
  obtain ⟨c, tail, rfl, _⟩ := h
  exact Nat.succ_pos _

theorem Opens.skipSpace_blank {cs : List Char} (h : Opens cs) :
    Json.skipSpace (' ' :: cs) = cs :=
  h.skipSpace

theorem skipSpace_of {c : Char} (h : isSpace c = false) (cs : List Char) :
    skipSpace (c :: cs) = c :: cs := by
  rw [skipSpace, List.dropWhile_cons, h]
  rfl

/-! ### Lists -/

/-- The items of a list are read from the first one on. -/
theorem readItems_separated {item : Json}
    (hread : ∀ j ∈ item :: items, ReadsBack j ∧ Opens j.print.toList)
    (hfuel : 2 * (separated ((item :: items).map print)).length ≤ fuel) :
    readItems fuel done (separated ((item :: items).map print) ++ ']' :: rest)
      = .ok (.array (done.reverse ++ item :: items), rest) := by
  induction items generalizing item fuel done with
  | nil =>
    obtain ⟨hitem, hopens⟩ := hread item (List.mem_cons_self ..)
    have hpos := hopens.length_pos
    rw [List.map_singleton, separated_singleton] at hfuel ⊢
    obtain ⟨fuel, rfl⟩ : ∃ n, fuel = n + 1 := ⟨fuel - 1, by omega⟩
    have hclose : isSpace ']' = false := rfl
    rw [readItems, hitem fuel _ hfuel]
    simp only [skipSpace_of hclose, List.reverse_cons]
  | cons next items ih =>
    obtain ⟨hitem, hopens⟩ := hread item (List.mem_cons_self ..)
    have hpos := hopens.length_pos
    have hrest : ∀ j ∈ next :: items, ReadsBack j ∧ Opens j.print.toList :=
      fun j hj => hread j (List.mem_cons_of_mem _ hj)
    have hmore : Opens (separated ((next :: items).map print)) :=
      opens_separated _ (hrest next (List.mem_cons_self ..)).2
    rw [List.map_cons, List.map_cons, separated_cons, ← List.map_cons] at hfuel ⊢
    rw [List.length_append, List.length_cons, List.length_cons] at hfuel
    obtain ⟨fuel, rfl⟩ : ∃ n, fuel = n + 1 := ⟨fuel - 1, by omega⟩
    have hblank := (hmore.append (']' :: rest)).skipSpace_blank
    have hcomma : isSpace ',' = false := rfl
    rw [List.append_assoc, readItems, hitem fuel _ (by omega)]
    simp only [List.cons_append, skipSpace_of hcomma, hblank]
    rw [ih hrest (by omega)]
    simp

/-! ### Objects -/

theorem notMem_of_nodup {m : String × Json}
    (hnames : ((before ++ m :: members).map (·.1)).Nodup) : m.1 ∉ before.map (·.1) := by
  rw [List.map_append, List.nodup_append] at hnames
  exact fun hm => hnames.2.2 _ hm _ (List.mem_cons_self ..) rfl

theorem insertMember_fresh {value : Json} (hname : name ∉ before.map (·.1)) :
    insertMember before name value = before ++ [(name, value)] := by
  have hany : before.any (·.1 == name) = false := by
    rw [List.any_eq_false]
    intro m hm hsame
    exact hname (List.mem_map.mpr ⟨m, hm, beq_iff_eq.mp hsame⟩)
  rw [insertMember, hany]
  rfl

/-- What is read after a member. -/
def afterMember (fuel : Nat) (members : List (String × Json)) : List Char → Reading Json
  | ',' :: after => readMembers fuel members (skipSpace after)
  | '}' :: after => .ok (.object members, after)
  | here => .error (.comma, here)

theorem readMembers_member {m : String × Json} (hread : ReadsBack m.2)
    (hopens : Opens m.2.print.toList) (hname : m.1 ∉ before.map (·.1))
    (hfuel : 2 * (memberText m).toList.length ≤ fuel + 1) :
    readMembers (fuel + 1) before ((memberText m).toList ++ rest)
      = afterMember fuel (before ++ [m]) (skipSpace rest) := by
  obtain ⟨name, value⟩ := m
  dsimp only at hread hopens hname
  rw [toList_member, List.length_append, List.length_cons, List.length_cons] at hfuel
  obtain ⟨body, hbody, hname'⟩ :=
    readText_printText name (':' :: ' ' :: (value.print.toList ++ rest))
  have hcolon : isSpace ':' = false := rfl
  have hblank := (hopens.append rest).skipSpace_blank
  rw [toList_member, List.append_assoc, List.cons_append, List.cons_append, hbody]
  simp only [readMembers, hname', skipSpace_of hcolon, hblank, hread fuel rest (by omega),
    insertMember_fresh hname]
  rfl

/-- The members of an object are read from the first one on. -/
theorem readMembers_separated {m : String × Json}
    (hread : ∀ m' ∈ m :: members, ReadsBack m'.2 ∧ Opens m'.2.print.toList)
    (hnames : ((before ++ m :: members).map (·.1)).Nodup)
    (hfuel : 2 * (separated ((m :: members).map memberText)).length ≤ fuel) :
    readMembers fuel before (separated ((m :: members).map memberText) ++ '}' :: rest)
      = .ok (.object (before ++ m :: members), rest) := by
  induction members generalizing m fuel before with
  | nil =>
    obtain ⟨hvalue, hopens⟩ := hread m (List.mem_cons_self ..)
    have hpos := (opens_member m).length_pos
    have hname := notMem_of_nodup hnames
    rw [List.map_singleton, separated_singleton] at hfuel ⊢
    obtain ⟨fuel, rfl⟩ : ∃ n, fuel = n + 1 := ⟨fuel - 1, by omega⟩
    have hclose : isSpace '}' = false := rfl
    rw [readMembers_member hvalue hopens hname hfuel, skipSpace_of hclose]
    rfl
  | cons next members ih =>
    obtain ⟨hvalue, hopens⟩ := hread m (List.mem_cons_self ..)
    have hpos := (opens_member m).length_pos
    have hname := notMem_of_nodup hnames
    have hrest : ∀ m' ∈ next :: members, ReadsBack m'.2 ∧ Opens m'.2.print.toList :=
      fun m' hm => hread m' (List.mem_cons_of_mem _ hm)
    have hmore : Opens (separated ((next :: members).map memberText)) :=
      opens_separated _ (opens_member next)
    have hsplit : before ++ m :: next :: members = (before ++ [m]) ++ next :: members := by simp
    rw [hsplit] at hnames ⊢
    rw [List.map_cons, List.map_cons, separated_cons, ← List.map_cons] at hfuel ⊢
    rw [List.length_append, List.length_cons, List.length_cons] at hfuel
    obtain ⟨fuel, rfl⟩ : ∃ n, fuel = n + 1 := ⟨fuel - 1, by omega⟩
    have hcomma : isSpace ',' = false := rfl
    have hblank := (hmore.append ('}' :: rest)).skipSpace_blank
    rw [List.append_assoc, readMembers_member hvalue hopens hname (by omega), List.cons_append,
      skipSpace_of hcomma, afterMember, List.cons_append, hblank]
    exact ih hrest hnames (by omega)

/-! ### Documents -/

theorem readsBack_array (hread : ∀ j ∈ items, ReadsBack j ∧ Opens j.print.toList) :
    ReadsBack (.array items) := by
  intro fuel rest hfuel
  rw [toList_array, List.length_cons, List.length_append, List.length_singleton] at hfuel
  obtain ⟨fuel, rfl⟩ : ∃ n, fuel = n + 1 := ⟨fuel - 1, by omega⟩
  rw [toList_array, List.cons_append, List.append_assoc, List.singleton_append, readValue]
  cases items with
  | nil => rfl
  | cons item items =>
    have hopens : Opens (separated ((item :: items).map print) ++ ']' :: rest) :=
      (opens_separated _ (hread item (List.mem_cons_self ..)).2).append _
    have hitems : readItems fuel [] (separated ((item :: items).map print) ++ ']' :: rest)
        = .ok (.array (item :: items), rest) := readItems_separated hread (by omega)
    rw [hopens.skipSpace]
    obtain ⟨c, tail, htext, hc⟩ := hopens
    rw [htext] at hitems ⊢
    rcases hc with rfl | rfl | rfl
    · exact hitems
    · exact hitems
    · exact hitems

theorem readsBack_object (hnames : (members.map (·.1)).Nodup)
    (hread : ∀ m ∈ members, ReadsBack m.2 ∧ Opens m.2.print.toList) :
    ReadsBack (.object members) := by
  intro fuel rest hfuel
  rw [toList_object, List.length_cons, List.length_append, List.length_singleton] at hfuel
  obtain ⟨fuel, rfl⟩ : ∃ n, fuel = n + 1 := ⟨fuel - 1, by omega⟩
  rw [toList_object, List.cons_append, List.append_assoc, List.singleton_append, readValue]
  cases members with
  | nil => rfl
  | cons m members =>
    have hopens : Opens (separated ((m :: members).map memberText) ++ '}' :: rest) :=
      (opens_separated _ (opens_member m)).append _
    have hmembers : readMembers fuel [] (separated ((m :: members).map memberText) ++ '}' :: rest)
        = .ok (.object (m :: members), rest) := readMembers_separated hread hnames (by omega)
    rw [hopens.skipSpace]
    obtain ⟨c, tail, htext, hc⟩ := hopens
    rw [htext] at hmembers ⊢
    rcases hc with rfl | rfl | rfl
    · exact hmembers
    · exact hmembers
    · exact hmembers

theorem Plain.readsBack (hd : d.Plain) : ReadsBack d := by
  induction hd with
  | string s => exact readsBack_string s
  | array items hitems ih => exact readsBack_array fun j hj => ⟨ih j hj, (hitems j hj).opens⟩
  | object members hnames hmembers ih =>
    exact readsBack_object hnames fun m hm => ⟨ih m hm, (hmembers m hm).opens⟩

/-- A document is read back from its JSON form. -/
theorem parse_print (hd : d.Plain) : parse d.print = .ok d := by
  have hread := hd.readsBack (2 * d.print.toList.length + 1) [] (by omega)
  have hspace := hd.opens.skipSpace
  rw [List.append_nil] at hread
  have hmark : ∀ cs, d.print.toList ≠ '\uFEFF' :: cs := by
    intro cs hmark
    obtain ⟨c, tail, htext, hc⟩ := hd.opens
    obtain rfl : c = '\uFEFF' := List.head_eq_of_cons_eq (htext.symm.trans hmark)
    rcases hc with hc | hc | hc
    · cases hc
    · cases hc
    · cases hc
  dsimp only [parse]
  split
  · rename_i cs hcs
    exact absurd hcs (hmark cs)
  · rw [hspace, hread]
    rfl

/-- Documents of one form are one document. -/
theorem print_injective {e : Json} (hd : d.Plain) (he : e.Plain) (h : d.print = e.print) :
    d = e := by
  have hread := parse_print hd
  rw [h, parse_print he] at hread
  exact (Except.ok.inj hread).symm

end Json

end DecisionTable
