import CardBridge.Text.Json
import CardBridge.Proofs.Text.Decimal
import CardBridge.Proofs.Text.Hexadecimal

/-!
# The grammar of JSON text

Which texts stand for a value (`Reads`), of those that have no blanks between
their parts: a text in quotation marks, where a character may be escaped; a
count in decimal digits; values in brackets; and values with names, all
different, in braces. What such a text stands for and where it ends is settled
by how it begins (`Reads.unique`). What is written for a value is read as it
(`Distinct.written`), and on one line (`printable_encode`).
-/

namespace CardBridge.JsonValue

open Text

variable {input input' text text' rest rest' : List Char} {v v' : JsonValue}
  {n n' : Nat}

/-! ## Texts -/

/-- The escapes of two characters, and what they stand for. -/
def shortEscapes : List (Char × Char) :=
  [('"', '"'), ('\\', '\\'), ('/', '/'), ('b', '\x08'), ('f', '\x0c'),
   ('n', '\n'), ('r', '\r'), ('t', '\t')]

/-- What stands behind a quotation mark: the text up to the next one, and the
rest behind that. -/
inductive Quoted : (input text rest : List Char) → Prop
  | close (rest : List Char) : Quoted ('"' :: rest) [] rest
  | plain {c : Char} {input text rest : List Char} (hcontrol : 0x20 ≤ c.toNat)
    (hquote : c ≠ '"') (hescape : c ≠ '\\') (h : Quoted input text rest) :
    Quoted (c :: input) (c :: text) rest
  | short {e c : Char} {input text rest : List Char}
    (hc : (e, c) ∈ shortEscapes) (h : Quoted input text rest) :
    Quoted ('\\' :: e :: input) (c :: text) rest
  /-- Four hexadecimal digits stand for a character by its number. -/
  | long {d₁ d₂ d₃ d₄ c : Char} {high low : UInt8}
    {input text rest : List Char}
    (hdigits : Hex.Denotes [d₁, d₂, d₃, d₄] [high, low])
    (hc : c.toNat = 256 * high.toNat + low.toNat)
    (h : Quoted input text rest) :
    Quoted ('\\' :: 'u' :: d₁ :: d₂ :: d₃ :: d₄ :: input) (c :: text) rest

theorem Quoted.unique (h : Quoted input text rest)
    (h' : Quoted input text' rest') : text = text' ∧ rest = rest' := by
  induction h generalizing text' with
  | close rest =>
    cases h' with
    | close => exact ⟨rfl, rfl⟩
    | plain _ hquote => exact absurd rfl hquote
  | plain hcontrol hquote hescape h ih =>
    cases h' with
    | close => exact absurd rfl hquote
    | plain _ _ _ h' =>
      obtain ⟨rfl, rfl⟩ := ih h'
      exact ⟨rfl, rfl⟩
    | short => exact absurd rfl hescape
    | long => exact absurd rfl hescape
  | @short e c input text rest hc h ih =>
    cases h' with
    | plain _ _ hescape => exact absurd rfl hescape
    | @short _ c' _ _ _ hc' h' =>
      have hall : ∀ p ∈ shortEscapes, ∀ q ∈ shortEscapes,
          p.1 = q.1 → p.2 = q.2 := by decide
      obtain rfl : c = c' := hall _ hc _ hc' rfl
      obtain ⟨rfl, rfl⟩ := ih h'
      exact ⟨rfl, rfl⟩
    | long =>
      exfalso
      revert hc
      simp [shortEscapes]
  | @long d₁ d₂ d₃ d₄ c high low input text rest hdigits hc h ih =>
    cases h' with
    | plain _ _ hescape => exact absurd rfl hescape
    | short hc' =>
      exfalso
      revert hc'
      simp [shortEscapes]
    | long hdigits' hc' h' =>
      have hbytes := hdigits.decode_eq.symm.trans hdigits'.decode_eq
      obtain ⟨rfl, rfl⟩ : high = _ ∧ low = _ := by simpa using hbytes
      obtain rfl := Char.toNat_inj.mp (hc.trans hc'.symm)
      obtain ⟨rfl, rfl⟩ := ih h'
      exact ⟨rfl, rfl⟩

/-! ## Numbers -/

/-- A number in front, in as many digits as there are: no zero stands before
others. -/
structure Counted (input : List Char) (n : Nat) (rest : List Char) :
    Prop where
  digits : ∃ digits, Digits digits n ∧ input = digits ++ rest ∧
    (digits.head? = some '0' → digits = ['0'])
  last : NoDigit rest

theorem Counted.unique (h : Counted input n rest)
    (h' : Counted input n' rest') : n = n' ∧ rest = rest' := by
  obtain ⟨⟨digits, hdigits, rfl, -⟩, hlast⟩ := h
  obtain ⟨⟨digits', hdigits', heq, -⟩, hlast'⟩ := h'
  exact hdigits.unique hdigits' hlast hlast' heq

theorem Counted.isDigit {c : Char} (h : Counted (c :: input) n rest) :
    c.isDigit = true := by
  obtain ⟨⟨digits, hdigits, hinput, -⟩, -⟩ := h
  obtain ⟨d, digits, rfl⟩ := List.exists_cons_of_ne_nil hdigits.ne_nil
  obtain rfl := (List.cons.inj hinput).1
  exact hdigits.all _ (List.mem_cons_self ..)

/-! ## Values -/

mutual

/-- A value in front, and the rest behind it. -/
inductive Reads : (input : List Char) → (v : JsonValue) →
    (rest : List Char) → Prop
  | text {input text rest : List Char} (h : Quoted input text rest) :
    Reads ('"' :: input) (.text (String.ofList text)) rest
  | number {input rest : List Char} {n : Nat} (h : Counted input n rest) :
    Reads input (.number n) rest
  | noItems (rest : List Char) : Reads ('[' :: ']' :: rest) (.list []) rest
  | list {input rest : List Char} {items : List JsonValue}
    (h : ReadsItems input items rest) : Reads ('[' :: input) (.list items) rest
  | noMembers (rest : List Char) :
    Reads ('{' :: '}' :: rest) (.object []) rest
  | object {input rest : List Char} {members : List (String × JsonValue)}
    (h : ReadsMembers input members rest)
    (hnames : (members.map Prod.fst).Nodup) :
    Reads ('{' :: input) (.object members) rest

/-- Values with commas between them, up to a bracket. -/
inductive ReadsItems : (input : List Char) → (items : List JsonValue) →
    (rest : List Char) → Prop
  | last {input rest : List Char} {item : JsonValue}
    (h : Reads input item (']' :: rest)) : ReadsItems input [item] rest
  | more {input input' rest : List Char} {item : JsonValue}
    {items : List JsonValue} (h : Reads input item (',' :: input'))
    (hitems : ReadsItems input' items rest) :
    ReadsItems input (item :: items) rest

/-- Named values with commas between them, up to a brace. -/
inductive ReadsMembers : (input : List Char) →
    (members : List (String × JsonValue)) → (rest : List Char) → Prop
  | last {input value name rest : List Char} {v : JsonValue}
    (hname : Quoted input name (':' :: value))
    (h : Reads value v ('}' :: rest)) :
    ReadsMembers ('"' :: input) [(String.ofList name, v)] rest
  | more {input value input' name rest : List Char} {v : JsonValue}
    {members : List (String × JsonValue)}
    (hname : Quoted input name (':' :: value))
    (h : Reads value v (',' :: input'))
    (hmembers : ReadsMembers input' members rest) :
    ReadsMembers ('"' :: input) ((String.ofList name, v) :: members) rest

end

/-- No value begins with a bracket that ends a list. -/
theorem not_readsItems {items : List JsonValue} :
    ¬ ReadsItems (']' :: input) items rest := by
  have hnot {v : JsonValue} {rest : List Char} :
      ¬ Reads (']' :: input) v rest := by
    rintro ⟨⟩
    rename_i h
    exact absurd h.isDigit (by decide)
  rintro (h | h)
  · exact hnot h
  · exact hnot h

-- the first character settles by which rule a value is read
mutual

theorem Reads.unique {input rest rest' : List Char} {v v' : JsonValue}
    (h : Reads input v rest) (h' : Reads input v' rest') :
    v = v' ∧ rest = rest' := by
  cases h with
  | text h =>
    cases h' with
    | text h' =>
      obtain ⟨rfl, rfl⟩ := h.unique h'
      exact ⟨rfl, rfl⟩
    | number h' => exact absurd h'.isDigit (by decide)
  | number h =>
    cases h' with
    | number h' =>
      obtain ⟨rfl, rfl⟩ := h.unique h'
      exact ⟨rfl, rfl⟩
    | text | noItems | list | noMembers | object =>
      exact absurd h.isDigit (by decide)
  | noItems rest =>
    cases h' with
    | noItems => exact ⟨rfl, rfl⟩
    | list h' => exact (not_readsItems h').elim
    | number h' => exact absurd h'.isDigit (by decide)
  | list h =>
    cases h' with
    | noItems => exact (not_readsItems h).elim
    | list h' =>
      obtain ⟨rfl, rfl⟩ := h.unique h'
      exact ⟨rfl, rfl⟩
    | number h' => exact absurd h'.isDigit (by decide)
  | noMembers rest =>
    cases h' with
    | noMembers => exact ⟨rfl, rfl⟩
    | object h' => cases h'
    | number h' => exact absurd h'.isDigit (by decide)
  | object h hnames =>
    cases h' with
    | noMembers => cases h
    | object h' =>
      obtain ⟨rfl, rfl⟩ := h.unique h'
      exact ⟨rfl, rfl⟩
    | number h' => exact absurd h'.isDigit (by decide)

theorem ReadsItems.unique {input rest rest' : List Char}
    {items items' : List JsonValue} (h : ReadsItems input items rest)
    (h' : ReadsItems input items' rest') : items = items' ∧ rest = rest' := by
  cases h with
  | last h =>
    cases h' with
    | last h' =>
      obtain ⟨rfl, hrest⟩ := h.unique h'
      exact ⟨rfl, (List.cons.inj hrest).2⟩
    | more h' => cases (h.unique h').2
  | more h hitems =>
    cases h' with
    | last h' => cases (h.unique h').2
    | more h' hitems' =>
      obtain ⟨rfl, hrest⟩ := h.unique h'
      obtain rfl := (List.cons.inj hrest).2
      obtain ⟨rfl, rfl⟩ := hitems.unique hitems'
      exact ⟨rfl, rfl⟩

theorem ReadsMembers.unique {input rest rest' : List Char}
    {members members' : List (String × JsonValue)}
    (h : ReadsMembers input members rest)
    (h' : ReadsMembers input members' rest') :
    members = members' ∧ rest = rest' := by
  cases h with
  | last hname h =>
    cases h' with
    | last hname' h' =>
      obtain ⟨rfl, hvalue⟩ := hname.unique hname'
      obtain rfl := (List.cons.inj hvalue).2
      obtain ⟨rfl, hrest⟩ := h.unique h'
      exact ⟨rfl, (List.cons.inj hrest).2⟩
    | more hname' h' =>
      obtain ⟨rfl, hvalue⟩ := hname.unique hname'
      obtain rfl := (List.cons.inj hvalue).2
      cases (h.unique h').2
  | more hname h hmembers =>
    cases h' with
    | last hname' h' =>
      obtain ⟨rfl, hvalue⟩ := hname.unique hname'
      obtain rfl := (List.cons.inj hvalue).2
      cases (h.unique h').2
    | more hname' h' hmembers' =>
      obtain ⟨rfl, hvalue⟩ := hname.unique hname'
      obtain rfl := (List.cons.inj hvalue).2
      obtain ⟨rfl, hrest⟩ := h.unique h'
      obtain rfl := (List.cons.inj hrest).2
      obtain ⟨rfl, rfl⟩ := hmembers.unique hmembers'
      exact ⟨rfl, rfl⟩

end

/-! ## What is written -/

/-- No two members of an object have the same name. -/
inductive Distinct : JsonValue → Prop
  | text (value : String) : Distinct (.text value)
  | number (n : Nat) : Distinct (.number n)
  | list {items : List JsonValue} (h : ∀ item ∈ items, Distinct item) :
    Distinct (.list items)
  | object {members : List (String × JsonValue)}
    (h : ∀ member ∈ members, Distinct member.2)
    (hnames : (members.map Prod.fst).Nodup) : Distinct (.object members)

theorem toNat_control {c : Char} (h : c.toNat < 0x20) :
    c.toNat.toUInt8.toNat = c.toNat :=
  UInt8.toNat_ofNat_of_lt (h.trans (by decide))

/-- The number of a character below U+0020 in four digits. -/
theorem denotes_escapeDigits {c : Char} (h : c.toNat < 0x20) :
    Hex.Denotes (escapeDigits c) [0, c.toNat.toUInt8] := by
  have hdigit (v : Nat) (hv : v < 16) : (Nat.digitChar v, v) ∈ Hex.digits :=
    Hex.digitValue?_eq_some_iff.mp (Hex.digitValue?_digitChar hv)
  have hlow : c.toNat.toUInt8.toNat = 16 * (c.toNat / 16) + c.toNat % 16 := by
    rw [toNat_control h, Nat.div_add_mod]
  exact .cons (hdigit 0 (by decide)) (hdigit 0 (by decide)) rfl
    (.cons (hdigit _ (by omega)) (hdigit _ (by omega)) hlow .nil)

theorem quoted_encodeChar (c : Char) (h : Quoted input text rest) :
    Quoted (encodeChar c ++ input) (c :: text) rest := by
  have hshort (e c : Char) (hc : (e, c) ∈ shortEscapes) :
      Quoted (['\\', e] ++ input) (c :: text) rest := .short hc h
  unfold encodeChar
  split
  · exact hshort '"' '"' (by decide)
  · exact hshort '\\' '\\' (by decide)
  · exact hshort 'b' '\x08' (by decide)
  · exact hshort 't' '\t' (by decide)
  · exact hshort 'n' '\n' (by decide)
  · exact hshort 'f' '\x0c' (by decide)
  · exact hshort 'r' '\r' (by decide)
  · rename_i hquote hescape _ _ _ _ _
    split
    · rename_i hcontrol
      have hvalue : c.toNat = 256 * (0 : UInt8).toNat +
          c.toNat.toUInt8.toNat := by
        rw [toNat_control hcontrol]
        simp
      exact .long (denotes_escapeDigits hcontrol) hvalue h
    · exact .plain (by omega) hquote hescape h

theorem quoted_encodeText (text : String) (rest : List Char) :
    ∃ input, encodeText text ++ rest = '"' :: input ∧
      Quoted input text.toList rest := by
  refine ⟨text.toList.flatMap encodeChar ++ '"' :: rest, by simp [encodeText],
    ?_⟩
  induction text.toList with
  | nil => exact .close rest
  | cons c text ih =>
    rw [List.flatMap_cons, List.append_assoc]
    exact quoted_encodeChar c ih

theorem counted_toDigits (n : Nat) (hrest : NoDigit rest) :
    Counted (Nat.toDigits 10 n ++ rest) n rest := by
  refine ⟨⟨_, digits_toDigits n, rfl, fun hzero => ?_⟩, hrest⟩
  rw [head?_toDigits n hzero]
  rfl

/-- What is written for a value is read as it, before anything that does not
go on with a number. -/
def Written (v : JsonValue) : Prop :=
  ∀ rest, NoDigit rest → Reads (encode v ++ rest) v rest

theorem Written.before {c : Char} (h : Written v) (hc : c.isDigit = false) :
    Reads (encode v ++ c :: rest) v (c :: rest) :=
  h _ (noDigit_cons hc)

theorem readsItems_encode {items : List JsonValue} (hne : items ≠ [])
    (h : ∀ item ∈ items, Written item) :
    ReadsItems (encodeItems items ++ ']' :: rest) items rest := by
  induction items with
  | nil => exact absurd rfl hne
  | cons item items ih =>
    obtain ⟨hitem, hitems⟩ := List.forall_mem_cons.mp h
    cases items with
    | nil => exact .last (hitem.before (by decide))
    | cons next items =>
      rw [encodeItems, List.append_assoc]
      · exact .more (hitem.before (by decide)) (ih nofun hitems)
      · exact nofun

theorem readsMembers_encode {members : List (String × JsonValue)}
    (hne : members ≠ []) (h : ∀ member ∈ members, Written member.2) :
    ReadsMembers (encodeMembers members ++ '}' :: rest) members rest := by
  induction members with
  | nil => exact absurd rfl hne
  | cons member members ih =>
    obtain ⟨name, v⟩ := member
    obtain ⟨hv, hmembers⟩ := List.forall_mem_cons.mp h
    cases members with
    | nil =>
      obtain ⟨input, hinput, hname⟩ :=
        quoted_encodeText name (':' :: (encode v ++ '}' :: rest))
      have hlast := ReadsMembers.last hname (hv.before (by decide))
      rw [String.ofList_toList] at hlast
      rw [encodeMembers, List.append_assoc, List.cons_append, hinput]
      exact hlast
    | cons next members =>
      obtain ⟨input, hinput, hname⟩ := quoted_encodeText name
        (':' :: (encode v ++ ',' :: (encodeMembers (next :: members) ++
          '}' :: rest)))
      have hmore := ReadsMembers.more hname (hv.before (by decide))
        (ih nofun hmembers)
      rw [String.ofList_toList] at hmore
      rw [encodeMembers, List.append_assoc, List.append_assoc,
        List.cons_append, List.cons_append, hinput]
      · exact hmore
      · exact nofun

theorem Distinct.written (h : Distinct v) : Written v := by
  induction h with
  | text value =>
    intro rest _
    obtain ⟨input, hinput, htext⟩ := quoted_encodeText value rest
    rw [encode, hinput]
    simpa using Reads.text htext
  | number n =>
    intro rest hrest
    rw [encode]
    exact .number (counted_toDigits n hrest)
  | @list items h ih =>
    intro rest _
    rw [encode]
    cases items with
    | nil => exact .noItems rest
    | cons item items =>
      simp only [List.cons_append, List.append_assoc, List.nil_append]
      exact .list (readsItems_encode nofun ih)
  | @object members h hnames ih =>
    intro rest _
    rw [encode]
    cases members with
    | nil => exact .noMembers rest
    | cons member members =>
      simp only [List.cons_append, List.append_assoc, List.nil_append]
      exact .object (readsMembers_encode nofun ih) hnames

/-! ## Characters below U+0020 -/

/-- No character below U+0020 stands in a text itself. -/
def Printable (text : List Char) : Prop :=
  ∀ c ∈ text, 0x20 ≤ c.toNat

theorem Printable.append (h : Printable text) (h' : Printable text') :
    Printable (text ++ text') :=
  List.forall_mem_append.mpr ⟨h, h'⟩

theorem Printable.cons {c : Char} (hc : 0x20 ≤ c.toNat) (h : Printable text) :
    Printable (c :: text) :=
  List.forall_mem_cons.mpr ⟨hc, h⟩

theorem printable_nil : Printable [] :=
  List.forall_mem_nil _

theorem printable_digit (hn : n < 16) : 0x20 ≤ (Nat.digitChar n).toNat := by
  revert hn n
  decide

theorem printable_encodeChar (c : Char) : Printable (encodeChar c) := by
  have hshort {e : Char} (he : 0x20 ≤ e.toNat) : Printable ['\\', e] :=
    .cons (by decide) (.cons he printable_nil)
  unfold encodeChar
  split
  iterate 7
    · exact hshort (by decide)
  split
  · have hlow := printable_digit (Nat.mod_lt c.toNat (by decide : 0 < 16))
    have hhigh := printable_digit (show c.toNat / 16 < 16 by omega)
    exact .cons (by decide) (.cons (by decide) (.cons (by decide)
      (.cons (by decide) (.cons hhigh (.cons hlow printable_nil)))))
  · exact .cons (by omega) printable_nil

theorem printable_encodeText (text : String) :
    Printable (encodeText text) := by
  refine .cons (by decide) (.append ?_ (.cons (by decide) printable_nil))
  intro c hc
  obtain ⟨d, -, hd⟩ := List.mem_flatMap.mp hc
  exact printable_encodeChar d c hd

theorem printable_toDigits (n : Nat) : Printable (Nat.toDigits 10 n) := by
  intro c hc
  have hdigit := toNat_of_isDigit ((digits_toDigits n).all c hc)
  omega

mutual

theorem printable_encode (v : JsonValue) : Printable (encode v) := by
  cases v with
  | text value => exact printable_encodeText value
  | number n => exact printable_toDigits n
  | list items =>
    exact .cons (by decide) ((printable_encodeItems items).append
      (.cons (by decide) printable_nil))
  | object members =>
    exact .cons (by decide) ((printable_encodeMembers members).append
      (.cons (by decide) printable_nil))

theorem printable_encodeItems (items : List JsonValue) :
    Printable (encodeItems items) := by
  match items with
  | [] => exact printable_nil
  | [item] => exact printable_encode item
  | item :: next :: items =>
    exact (printable_encode item).append
      (.cons (by decide) (printable_encodeItems (next :: items)))

theorem printable_encodeMembers (members : List (String × JsonValue)) :
    Printable (encodeMembers members) := by
  match members with
  | [] => exact printable_nil
  | [(name, v)] =>
    exact (printable_encodeText name).append
      (.cons (by decide) (printable_encode v))
  | (name, v) :: next :: members =>
    exact ((printable_encodeText name).append
      (.cons (by decide) (printable_encode v))).append
        (.cons (by decide) (printable_encodeMembers (next :: members)))

end

end CardBridge.JsonValue
