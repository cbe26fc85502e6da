import Compliance.Json.Printer
import Compliance.Json.Reader
import Compliance.Proofs.Decimal.Digits

/-!
# Written values are read back

Whatever value is written, reading its text gives the value again
(`parse_pretty`), with all characters of its strings, the order of its members
and the digits of its numbers.

The proof follows the text.  What stands after a value is the end of the text, a
comma or a line break, so that a number is not taken to go on (`EndsValue`).
White space only stands where it is skipped, since no token begins with it.  The
fuel is counted in characters: every call but one for each item or member leaves
a character behind.
-/

namespace Compliance.Json

/-! ## White space -/

/-- White space is skipped up to the first character that is none. -/
theorem skipSpace_cons_of_not_isSpace {c : Char} (hc : isSpace c = false) (rest : List Char) :
    skipSpace (c :: rest) = c :: rest := by
  simp [skipSpace, hc]

/-- A line break is skipped with all of its spaces. -/
theorem skipSpace_lineBreak_append (level : Nat) (rest : List Char) :
    skipSpace (lineBreak level ++ rest) = skipSpace rest := by
  have hspaces : ∀ c ∈ lineBreak level, isSpace c = true := by
    intro c hmem
    rcases List.mem_cons.mp hmem with rfl | hspace
    · rfl
    · rw [List.eq_of_mem_replicate hspace]
      rfl
  exact List.dropWhile_append_of_pos hspaces

/-! ## Strings -/

@[simp] theorem StringResult.unless_none (result : StringResult) : result.unless none = result :=
  rfl

theorem hexDigit?_hexChar : ∀ digit < 16, hexDigit? (hexChar digit) = some digit := by decide

/-- The digits of a control character give back its code point. -/
theorem hexUnit?_of_lt {code : Nat} (hcontrol : code < 0x20) :
    hexUnit? '0' '0' (hexChar (code / 16)) (hexChar (code % 16)) = some code := by
  have hhigh := hexDigit?_hexChar (code / 16) (by omega)
  have hlow := hexDigit?_hexChar (code % 16) (by omega)
  have hzero : hexDigit? '0' = some 0 := rfl
  simp only [hexUnit?, hzero, hhigh, hlow, Option.bind_eq_bind, Option.bind_some, Option.pure_def,
    Option.some.injEq]
  omega

/-- A control character is read back from its digits. -/
theorem stringTail_control {c : Char} (hcontrol : c.toNat < 0x20) (rest : List Char) :
    stringTail none
        ('\\' :: 'u' :: '0' :: '0' :: hexChar (c.toNat / 16) :: hexChar (c.toNat % 16) :: rest) =
      (stringTail none rest).prepend c := by
  have hhigh : isHighSurrogate c.toNat = false := by
    simp only [isHighSurrogate, Bool.and_eq_false_iff, decide_eq_false_iff_not]
    omega
  have hlow : isLowSurrogate c.toNat = false := by
    simp only [isLowSurrogate, Bool.and_eq_false_iff, decide_eq_false_iff_not]
    omega
  rw [stringTail]
  simp [hexUnit?_of_lt hcontrol, hhigh, hlow, Char.ofNat_toNat]

/-- A character that needs no escape stands for itself. -/
theorem stringTail_plain {c : Char} (hquote : c ≠ '"') (hslash : c ≠ '\\')
    (hcontrol : ¬ c.toNat < 0x20) (rest : List Char) :
    stringTail none (c :: rest) = (stringTail none rest).prepend c := by
  rw [stringTail]
  · simp [hcontrol, hslash]
  · exact hquote
  · exact fun _ _ _ _ _ heq _ => hslash heq
  · exact fun _ _ heq _ => hslash heq

/-- A character is read back from the way in which it is written. -/
theorem stringTail_escape_append (c : Char) (rest : List Char) :
    stringTail none (escape c ++ rest) = (stringTail none rest).prepend c := by
  unfold escape
  split
  case h_8 _ hquote hslash _ _ _ _ _ =>
    split
    · rename_i hcontrol
      exact stringTail_control hcontrol rest
    · rename_i hcontrol
      exact stringTail_plain hquote hslash hcontrol rest
  all_goals rfl

/-- The characters of a string are read up to its closing quote. -/
theorem stringTail_flatMap_escape (text rest : List Char) :
    stringTail none (text.flatMap escape ++ '"' :: rest) = .ok (some text, rest) := by
  induction text with
  | nil => rfl
  | cons c text ih =>
      rw [List.flatMap_cons, List.append_assoc, stringTail_escape_append, ih]
      rfl

/-- A string is written with an opening quote, and read back from what follows it. -/
theorem exists_stringText_eq (text : Option String) :
    ∃ body, stringText text = '"' :: body ∧
      ∀ rest, stringTail none (body ++ rest) = .ok (text.map String.toList, rest) := by
  cases text with
  | none => exact ⟨_, rfl, fun rest => rfl⟩
  | some text =>
      refine ⟨text.toList.flatMap escape ++ ['"'], rfl, fun rest => ?_⟩
      rw [List.append_assoc]
      exact stringTail_flatMap_escape text.toList rest

/-! ## What stands after a value -/

/-- The end of the text, or what comes after a value inside another one: a comma or a line break. -/
def EndsValue (rest : List Char) : Prop := ∀ c ∈ rest.head?, c = ',' ∨ c = '\n'

theorem endsValue_nil : EndsValue [] := by simp [EndsValue]

theorem endsValue_comma (rest : List Char) : EndsValue (',' :: rest) := by simp [EndsValue]

theorem endsValue_lineBreak_append (level : Nat) (rest : List Char) :
    EndsValue (lineBreak level ++ rest) := by
  simp [EndsValue, lineBreak]

theorem EndsValue.isDigit_head {rest : List Char} (hrest : EndsValue rest) :
    ∀ c ∈ rest.head?, c.isDigit = false := by
  intro c hmem
  rcases hrest c hmem with rfl | rfl <;> rfl

/-! ## Numbers -/

/-- The value of decimal digits is the number that the library makes of them. -/
theorem digitsValue_eq_ofDigitChars (digits : List Char) :
    digitsValue digits = Nat.ofDigitChars 10 digits 0 := by
  simp only [digitsValue, Nat.ofDigitChars, Nat.mul_comm 10]

@[simp] theorem digitsValue_digitsOf (number : Nat) :
    digitsValue (Decimal.digitsOf number) = number := by
  rw [digitsValue_eq_ofDigitChars, Decimal.digitsOf, Nat.ofDigitChars_ten_toDigits]

theorem spanDigits_digitsOf_append (number : Nat) {rest : List Char}
    (hrest : ∀ c ∈ rest.head?, c.isDigit = false) :
    spanDigits (Decimal.digitsOf number ++ rest) = (Decimal.digitsOf number, rest) := by
  have hdigits : ∀ c ∈ Decimal.digitsOf number, c.isDigit = true :=
    fun c hmem => isDigit_of_mem_digitsOf hmem
  exact Prod.ext (takeWhile_isDigit_append hdigits hrest) (dropWhile_isDigit_append hdigits hrest)

/-- A power of ten after a number. -/
def exponentText (scale : Int) : List Char :=
  if scale = 0 then []
  else 'e' :: (if scale < 0 then ['-'] else []) ++ Decimal.digitsOf scale.natAbs

/-- What stands after the digits of a number does not begin with a digit. -/
theorem isDigit_head_exponentText_append (scale : Int) {rest : List Char} (hrest : EndsValue rest) :
    ∀ c ∈ (exponentText scale ++ rest).head?, c.isDigit = false := by
  unfold exponentText
  split
  · exact hrest.isDigit_head
  · simp

/-- There is no fraction before a power of ten or the end of a value. -/
theorem fraction_exponentText_append (scale : Int) {rest : List Char} (hrest : EndsValue rest) :
    fraction (exponentText scale ++ rest) = .ok ([], exponentText scale ++ rest) := by
  unfold exponentText
  split
  · cases rest with
    | nil => rfl
    | cons c rest =>
        rcases hrest c (by simp) with rfl | rfl <;> rfl
  · rfl

/-- A power of ten is read back from its sign and its digits. -/
theorem exponent_exponentText_append (scale : Int) {rest : List Char} (hrest : EndsValue rest) :
    exponent (exponentText scale ++ rest) = .ok (scale, rest) := by
  unfold exponentText
  split
  · rename_i hzero
    rw [hzero]
    cases rest with
    | nil => rfl
    | cons c rest => rcases hrest c (by simp) with rfl | rfl <;> rfl
  · obtain ⟨number, hnumber⟩ : ∃ number, scale.natAbs = number := ⟨_, rfl⟩
    have hspan := spanDigits_digitsOf_append number hrest.isDigit_head
    have hvalue := digitsValue_digitsOf number
    obtain ⟨digit, digits, hdigits, hdigit⟩ := exists_digitsOf_eq_cons number
    have hminus : digit ≠ '-' := ne_of_isDigit hdigit rfl
    have hplus : digit ≠ '+' := ne_of_isDigit hdigit rfl
    rw [hdigits] at hspan hvalue
    rw [hnumber, hdigits]
    rw [List.cons_append] at hspan
    split
    · have hscale : -(number : Int) = scale := by omega
      simp only [exponent, List.cons_append, List.nil_append]
      simp [hspan, hvalue, hscale]
    · have hscale : (number : Int) = scale := by omega
      simp only [exponent, List.cons_append, List.nil_append]
      simp [hminus, hplus, hspan, hvalue, hscale]

/-- A number is read back from its digits and its power of ten. -/
theorem numberTail_digitsOf_append (negative : Bool) (significand : Nat) (scale : Int)
    {rest : List Char} (hrest : EndsValue rest) :
    numberTail negative (Decimal.digitsOf significand ++ (exponentText scale ++ rest)) =
      .ok (.number negative significand scale, rest) := by
  have hzeros : ¬ (1 < (Decimal.digitsOf significand).length ∧
      (Decimal.digitsOf significand).head? = some '0') := by
    rintro ⟨hlength, hhead⟩
    rw [eq_zero_of_head?_digitsOf hhead] at hlength
    exact absurd hlength (by decide)
  unfold numberTail
  rw [spanDigits_digitsOf_append significand (isDigit_head_exponentText_append scale hrest)]
  simp only [fraction_exponentText_append scale hrest]
  rw [if_neg (by simpa [digitsOf_ne_nil] using hzeros)]
  simp [bind, Except.bind, pure, Except.pure, exponent_exponentText_append scale hrest]

/-- Where a digit stands a number is read. -/
theorem value_digit {digit : Char} (hdigit : digit.isDigit = true) (fuel : Nat)
    (rest : List Char) : value (fuel + 1) (digit :: rest) = numberTail false (digit :: rest) := by
  have hother : ∀ {c : Char} {tail : List Char}, c.isDigit = false → digit :: rest ≠ c :: tail := by
    intro c tail hc heq
    exact ne_of_isDigit hdigit hc (List.cons.inj heq).1
  rw [value]
  · exact List.cons_ne_nil digit rest
  all_goals exact fun _ => hother rfl

/-- A number is read back from its text. -/
theorem value_numberText_append (fuel : Nat) (negative : Bool) (significand : Nat) (scale : Int)
    {rest : List Char} (hrest : EndsValue rest) :
    value (fuel + 1) (numberText negative significand scale ++ rest) =
      .ok (.number negative significand scale, rest) := by
  have htail := numberTail_digitsOf_append negative significand scale hrest
  have htext : numberText negative significand scale ++ rest =
      (if negative then ['-'] else []) ++
        (Decimal.digitsOf significand ++ (exponentText scale ++ rest)) := by
    simp only [numberText, exponentText, Decimal.digitsOf, List.append_assoc]
  obtain ⟨digit, digits, hdigits, hdigit⟩ := exists_digitsOf_eq_cons significand
  rw [htext]
  cases negative with
  | true => exact htail
  | false =>
      rw [hdigits, List.cons_append] at htail ⊢
      exact (value_digit hdigit fuel _).trans htail

/-! ## Where a value begins -/

/-- A text begins with a token that does not close an array. -/
def BeginsItem (text : List Char) : Prop :=
  ∃ c rest, text = c :: rest ∧ isSpace c = false ∧ c ≠ ']'

theorem BeginsItem.append {text : List Char} (htext : BeginsItem text) (rest : List Char) :
    BeginsItem (text ++ rest) := by
  obtain ⟨c, tail, rfl, hspace, hbracket⟩ := htext
  exact ⟨c, tail ++ rest, rfl, hspace, hbracket⟩

theorem BeginsItem.skipSpace_eq {text : List Char} (htext : BeginsItem text) :
    skipSpace text = text := by
  obtain ⟨c, rest, rfl, hspace, -⟩ := htext
  exact skipSpace_cons_of_not_isSpace hspace rest

theorem beginsItem_digitsOf (number : Nat) : BeginsItem (Decimal.digitsOf number) := by
  obtain ⟨digit, digits, hdigits, hdigit⟩ := exists_digitsOf_eq_cons number
  have hspace : digit ≠ ' ' ∧ digit ≠ '\n' ∧ digit ≠ '\t' ∧ digit ≠ '\r' :=
    ⟨ne_of_isDigit hdigit rfl, ne_of_isDigit hdigit rfl, ne_of_isDigit hdigit rfl,
      ne_of_isDigit hdigit rfl⟩
  exact ⟨digit, digits, hdigits, by simp [isSpace, hspace], ne_of_isDigit hdigit rfl⟩

theorem beginsItem_stringText (text : Option String) : BeginsItem (stringText text) := by
  obtain ⟨body, hbody, -⟩ := exists_stringText_eq text
  exact ⟨_, body, hbody, rfl, by decide⟩

theorem beginsItem_render (level : Nat) (json : Json) : BeginsItem (render level json) := by
  cases json with
  | null => exact ⟨_, _, rfl, rfl, by decide⟩
  | bool value => cases value <;> exact ⟨_, _, rfl, rfl, by decide⟩
  | number negative significand scale =>
      cases negative with
      | true => exact ⟨_, _, rfl, rfl, by decide⟩
      | false => exact (beginsItem_digitsOf significand).append _
  | string text => exact beginsItem_stringText text
  | array items => cases items <;> exact ⟨_, _, rfl, rfl, by decide⟩
  | object members => cases members <;> exact ⟨_, _, rfl, rfl, by decide⟩

/-! ## Values -/

/-- An array is read from its items. -/
theorem value_bracket {fuel : Nat} {text rest : List Char} {list : List Json} (level : Nat)
    (htext : BeginsItem text) (hitems : items fuel text = .ok (list, rest)) :
    value (fuel + 1) ('[' :: (lineBreak level ++ text)) = .ok (.array list, rest) := by
  have hskip : skipSpace (lineBreak level ++ text) = text :=
    (skipSpace_lineBreak_append level text).trans htext.skipSpace_eq
  obtain ⟨c, tail, rfl, -, hbracket⟩ := htext
  rw [value, hskip]
  simp [hitems, hbracket, bind, Except.bind, pure, Except.pure]

/-- An object is read from its members. -/
theorem value_brace {fuel : Nat} {text rest : List Char} {list : List (Option String × Json)}
    (level : Nat) (hmembers : members fuel ('"' :: text) = .ok (list, rest)) :
    value (fuel + 1) ('\x7b' :: (lineBreak level ++ '"' :: text)) = .ok (.object list, rest) := by
  have hskip : skipSpace (lineBreak level ++ '"' :: text) = '"' :: text :=
    skipSpace_lineBreak_append level ('"' :: text)
  rw [value, hskip]
  simp [hmembers, bind, Except.bind, pure, Except.pure]

/-- The last item stands before the closing bracket. -/
theorem items_last {fuel : Nat} {text rest : List Char} {item : Json} (level : Nat)
    (hitem : value fuel text = .ok (item, lineBreak level ++ ']' :: rest)) :
    items (fuel + 1) text = .ok ([item], rest) := by
  have hskip : skipSpace (lineBreak level ++ ']' :: rest) = ']' :: rest :=
    skipSpace_lineBreak_append level (']' :: rest)
  rw [items, hitem]
  simp [hskip, bind, Except.bind, pure, Except.pure]

/-- Another item stands after a comma. -/
theorem items_comma {fuel : Nat} {text next rest : List Char} {item : Json} {others : List Json}
    (level : Nat) (hnext : BeginsItem next)
    (hitem : value fuel text = .ok (item, ',' :: (lineBreak level ++ next)))
    (hothers : items fuel next = .ok (others, rest)) :
    items (fuel + 1) text = .ok (item :: others, rest) := by
  have hskip : skipSpace (lineBreak level ++ next) = next :=
    (skipSpace_lineBreak_append level next).trans hnext.skipSpace_eq
  have hcomma : skipSpace (',' :: (lineBreak level ++ next)) = ',' :: (lineBreak level ++ next) :=
    rfl
  rw [items, hitem]
  simp [hcomma, hskip, hothers, bind, Except.bind, pure, Except.pure]

/-- The last member stands before the closing brace. -/
theorem members_last {fuel : Nat} {text rest : List Char} {content : Json} (name : Option String)
    (level : Nat) (htext : BeginsItem text)
    (hcontent : value fuel text = .ok (content, lineBreak level ++ '\x7d' :: rest)) :
    members (fuel + 1) (stringText name ++ ':' :: ' ' :: text) = .ok ([(name, content)], rest) := by
  obtain ⟨body, hbody, hname⟩ := exists_stringText_eq name
  have hcolon : skipSpace (':' :: ' ' :: text) = ':' :: ' ' :: text := rfl
  have hspace : skipSpace (' ' :: text) = text := htext.skipSpace_eq
  have hskip : skipSpace (lineBreak level ++ '\x7d' :: rest) = '\x7d' :: rest :=
    skipSpace_lineBreak_append level ('\x7d' :: rest)
  rw [hbody, List.cons_append, members, hname]
  simp [hcolon, hspace, hcontent, hskip, bind, Except.bind, pure, Except.pure, Function.comp_def]

/-- Another member stands after a comma. -/
theorem members_comma {fuel : Nat} {text next rest : List Char} {content : Json}
    {others : List (Option String × Json)} (name : Option String) (level : Nat)
    (htext : BeginsItem text) (hnext : BeginsItem next)
    (hcontent : value fuel text = .ok (content, ',' :: (lineBreak level ++ next)))
    (hothers : members fuel next = .ok (others, rest)) :
    members (fuel + 1) (stringText name ++ ':' :: ' ' :: text) =
      .ok ((name, content) :: others, rest) := by
  obtain ⟨body, hbody, hname⟩ := exists_stringText_eq name
  have hcolon : skipSpace (':' :: ' ' :: text) = ':' :: ' ' :: text := rfl
  have hspace : skipSpace (' ' :: text) = text := htext.skipSpace_eq
  have hskip : skipSpace (lineBreak level ++ next) = next :=
    (skipSpace_lineBreak_append level next).trans hnext.skipSpace_eq
  have hcomma : skipSpace (',' :: (lineBreak level ++ next)) = ',' :: (lineBreak level ++ next) :=
    rfl
  rw [hbody, List.cons_append, members, hname]
  simp [hcolon, hspace, hcontent, hcomma, hskip, hothers, bind, Except.bind, pure, Except.pure,
    Function.comp_def]

mutual

/-- A value is read from its text, and what stands after it is left. -/
theorem value_render (fuel level : Nat) (json : Json) (rest : List Char)
    (hfuel : 2 * (render level json).length ≤ fuel) (hrest : EndsValue rest) :
    value (fuel + 1) (render level json ++ rest) = .ok (json, rest) := by
  cases json with
  | null => rfl
  | bool value => cases value <;> rfl
  | number negative significand scale =>
      exact value_numberText_append fuel negative significand scale hrest
  | string text =>
      obtain ⟨body, hbody, hread⟩ := exists_stringText_eq text
      rw [render, hbody, List.cons_append, value, hread]
      simp [bind, Except.bind, pure, Except.pure, Function.comp_def]
  | array items =>
      cases items with
      | nil => rfl
      | cons first others =>
          have hitems := items_renderItems fuel (level + 1) level first others rest
            (by simp [render] at hfuel ⊢; omega)
          have hbegins := ((beginsItem_render (level + 1) first).append
            (renderItems (level + 1) others)).append (lineBreak level ++ ']' :: rest)
          simpa [render] using value_bracket (level + 1) hbegins hitems
  | object members =>
      cases members with
      | nil => rfl
      | cons member others =>
          obtain ⟨name, content⟩ := member
          have hmembers := members_renderMembers fuel (level + 1) level name content others rest
            (by simp [render] at hfuel ⊢; omega)
          obtain ⟨body, hbody, -⟩ := exists_stringText_eq name
          rw [hbody, List.cons_append] at hmembers
          simpa [render, hbody] using value_brace (level + 1) hmembers

/-- The items of an array are read from the first one to the closing bracket. -/
theorem items_renderItems (fuel level outer : Nat) (first : Json) (others : List Json)
    (rest : List Char)
    (hfuel : 2 * (render level first ++ renderItems level others).length + 2 ≤ fuel) :
    items fuel
        (render level first ++ renderItems level others ++ (lineBreak outer ++ ']' :: rest)) =
      .ok (first :: others, rest) := by
  -- one call for the item and one for those after it, which are shorter by the comma
  obtain ⟨fuel, rfl⟩ : ∃ less, fuel = less + 2 := ⟨fuel - 2, by omega⟩
  simp only [List.length_append] at hfuel
  cases others with
  | nil =>
      have hfirst := value_render fuel level first (lineBreak outer ++ ']' :: rest) (by omega)
        (endsValue_lineBreak_append _ _)
      rw [renderItems, List.append_nil]
      exact items_last outer hfirst
  | cons second others =>
      have hothers := items_renderItems (fuel + 1) level outer second others rest
        (by simp [renderItems] at hfuel ⊢; omega)
      have hbegins := ((beginsItem_render level second).append
        (renderItems level others)).append (lineBreak outer ++ ']' :: rest)
      have hfirst := fun next => value_render fuel level first (',' :: (lineBreak level ++ next))
        (by omega) (endsValue_comma _)
      simpa [renderItems] using items_comma level hbegins (hfirst _) hothers

/-- The members of an object are read from the name of the first one to the closing brace. -/
theorem members_renderMembers (fuel level outer : Nat) (name : Option String) (content : Json)
    (others : List (Option String × Json)) (rest : List Char)
    (hfuel : 2 * (render level content ++ renderMembers level others).length + 2 ≤ fuel) :
    members fuel (stringText name ++ ':' :: ' ' ::
        (render level content ++ renderMembers level others ++
          (lineBreak outer ++ '\x7d' :: rest))) =
      .ok ((name, content) :: others, rest) := by
  obtain ⟨fuel, rfl⟩ : ∃ less, fuel = less + 2 := ⟨fuel - 2, by omega⟩
  simp only [List.length_append] at hfuel
  cases others with
  | nil =>
      have hcontent := value_render fuel level content (lineBreak outer ++ '\x7d' :: rest)
        (by omega) (endsValue_lineBreak_append _ _)
      rw [renderMembers, List.append_nil]
      exact members_last name outer ((beginsItem_render level content).append _) hcontent
  | cons second others =>
      obtain ⟨secondName, secondContent⟩ := second
      have hothers := members_renderMembers (fuel + 1) level outer secondName secondContent others
        rest (by simp [renderMembers] at hfuel ⊢; omega)
      have hbegins := (beginsItem_stringText secondName).append (':' :: ' ' ::
        (render level secondContent ++ renderMembers level others ++
          (lineBreak outer ++ '\x7d' :: rest)))
      have hcontent := fun next => value_render fuel level content
        (',' :: (lineBreak level ++ next)) (by omega) (endsValue_comma _)
      simpa [renderMembers] using members_comma name level
        ((beginsItem_render level content).append _) hbegins (hcontent _) hothers

end

/-- The text of a value is read as the value. -/
theorem parse_pretty (json : Json) : parse json.pretty = .ok json := by
  have hbegins := beginsItem_render 0 json
  have hvalue := value_render (2 * (render 0 json).length + 1) 0 json [] (by omega) endsValue_nil
  rw [List.append_nil] at hvalue
  rw [parse, pretty, String.toList_ofList, parseChars, hbegins.skipSpace_eq, hvalue]
  rfl

end Compliance.Json
