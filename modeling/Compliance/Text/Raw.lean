import Compliance.Text.Quoted

/-!
# Raw texts

The names of files and directories are stored as octets.  Mostly these are the
UTF-8 form of a text, but nothing demands it.  Octets that are no text are shown
as far as they can be: the characters among them as they are, and each beginning
of a character that does not go on as one as a replacement character.
-/

namespace Compliance

/-- The octets of a text in UTF-8. -/
def Text.octets (text : String) : List UInt8 := text.toUTF8.data.toList

/-- A text as it is stored, in octets that need not be UTF-8. -/
structure RawText where
  octets : List UInt8
deriving DecidableEq, Repr, Inhabited

namespace RawText

/-- A text in UTF-8. -/
def ofText (text : String) : RawText := ⟨Text.octets text⟩

instance : Coe String RawText := ⟨ofText⟩

/-- The text that the octets are in UTF-8, if they are one. -/
def text? (raw : RawText) : Option String := String.fromUTF8? ⟨raw.octets.toArray⟩

@[simp] theorem text?_ofText (text : String) : (ofText text).text? = some text := by
  have hoctets : (⟨(ofText text).octets.toArray⟩ : ByteArray) = text.toByteArray := rfl
  rw [text?, hoctets, String.fromUTF8?, dif_pos text.isValidUTF8]
  rfl

/-- Octets are those of a text exactly if they are its UTF-8 form. -/
theorem text?_eq_some_iff {raw : RawText} {text : String} :
    raw.text? = some text ↔ raw = ofText text := by
  constructor
  · intro htext
    rw [text?, String.fromUTF8?] at htext
    split at htext
    · obtain rfl := Option.some.inj htext
      rfl
    · cases htext
  · rintro rfl
    exact text?_ofText text

@[simp] theorem ofText_inj {first second : String} :
    ofText first = ofText second ↔ first = second := by
  rw [← text?_eq_some_iff, text?_ofText, Option.some.injEq]

/-! ## The order of octets -/

instance : LT RawText := ⟨fun first second => first.octets < second.octets⟩

instance : LE RawText := ⟨fun first second => first.octets ≤ second.octets⟩

instance (first second : RawText) : Decidable (first < second) :=
  inferInstanceAs (Decidable (first.octets < second.octets))

instance (first second : RawText) : Decidable (first ≤ second) :=
  inferInstanceAs (Decidable (first.octets ≤ second.octets))

/-! ## Showing octets -/

/-- A part of octets: a character, or octets that are none. -/
inductive Part where
  | character (c : Char)
  | stray (octets : List UInt8)
deriving DecidableEq, Repr, Inhabited

/-- The character that the octets are. -/
def character? (octets : List UInt8) : Option Char :=
  match (RawText.mk octets).text?.map String.toList with
  | some [c] => some c
  | _ => none

/-- Whether the octets go on as a character, or can, after the first one. -/
def continues (first second : UInt8) : Bool :=
  if first = 0xE0 then 0xA0 ≤ second && second ≤ 0xBF
  else if first = 0xED then 0x80 ≤ second && second ≤ 0x9F
  else if first = 0xF0 then 0x90 ≤ second && second ≤ 0xBF
  else if first = 0xF4 then 0x80 ≤ second && second ≤ 0x8F
  else 0x80 ≤ second && second ≤ 0xBF

/-- Whether a character begins with the octets and goes on after them. -/
def opens : (octets : List UInt8) → Bool
  | [first] => 0xC2 ≤ first && first ≤ 0xF4
  | [first, second] => 0xE0 ≤ first && first ≤ 0xF4 && continues first second
  | [first, second, third] =>
    0xF0 ≤ first && first ≤ 0xF4 && continues first second && 0x80 ≤ third && third ≤ 0xBF
  | _ => false

/-- The parts of octets after others that a character can begin with. -/
def partsAfter (pending : List UInt8) : (octets : List UInt8) → List Part
  | [] => if pending.isEmpty then [] else [.stray pending]
  | octet :: rest =>
    match character? (pending ++ [octet]) with
    | some c => .character c :: partsAfter [] rest
    | none =>
      if opens (pending ++ [octet]) then partsAfter (pending ++ [octet]) rest
      else
        -- What was pending is no character; the octet may be one, or begin one.
        let before := if pending.isEmpty then [] else [.stray pending]
        match character? [octet] with
        | some c => before ++ .character c :: partsAfter [] rest
        | none =>
          if opens [octet] then before ++ partsAfter [octet] rest
          else before ++ .stray [octet] :: partsAfter [] rest

/-- The parts of a raw text. -/
def parts (raw : RawText) : List Part := partsAfter [] raw.octets

/-- The text, or what can be shown of the octets. -/
def shown (raw : RawText) : String :=
  raw.text?.getD (String.ofList (raw.parts.map fun
    | .character c => c
    | .stray _ => '\uFFFD'))

/-- How an octet is written between quotes. -/
def escapeOctet (octet : UInt8) : List Char :=
  ['\\', 'x'] ++ (Text.hexDigits (octet.toNat / 16) ++ Text.hexDigits (octet.toNat % 16)).map
    Char.toUpper

/-- The text between double quotes, with its characters and stray octets escaped. -/
def quoted (raw : RawText) : String :=
  match raw.text? with
  | some text => Text.quoted text
  | none =>
    String.ofList ('"' :: (raw.parts.flatMap fun
      | .character c => Text.escape c
      | .stray octets => octets.flatMap escapeOctet) ++ ['"'])

/-- Octets stand in a text as they are shown. -/
instance : CoeOut RawText String := ⟨shown⟩

/-- Names may be given as texts, all at once. -/
instance : Coe (List String) (List RawText) := ⟨List.map ofText⟩

@[simp] theorem shown_ofText (text : String) : (ofText text).shown = text := by
  rw [shown, text?_ofText, Option.getD_some]

example : RawText.shown ⟨[0x61, 0xE2, 0x82, 0x62]⟩ = "a\uFFFDb" := by decide +kernel

end RawText

end Compliance
