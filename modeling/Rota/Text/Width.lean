import Rota.Text.Width.Runs

/-!
How many terminal columns a text takes: two for a wide character, none for a mark, one otherwise.
Some sequences take other than the sum of their characters: pictures that a mark asks for, that a
joiner makes one, or that have a skin tone, and letters that some scripts join. So a text is gone
through from its end, and a character's columns depend on what follows it.
-/

namespace Rota.Text

inductive Presentation where
  | picture | text
  deriving DecidableEq, Repr

inductive Ligature where
  | lamed | ya | vowelYa | consonant | joinerConsonant | tone | orkhonI | subscript
  deriving DecidableEq, Repr

inductive Following where
  | plain
  | lineFeed
  | fullWidth
  | picture
  | skinTone
  | flagLetter (isSeveral : Bool)
  | joined (isKeycap : Bool)
  | joinedFlag (letters : Nat)
  | joinedTag (isDigits : Bool) (count : Nat)
  | alef
  | ligature (last : Ligature) (isJoined : Bool)
  | vowelE
  | vowelAi
  deriving DecidableEq, Repr

structure Context where
  following : Following := .plain
  mark : Option Presentation := none
  deriving DecidableEq, Repr

namespace Context

def hasLetters (context : Context) : Bool :=
  match context.following with
  | .alef | .ligature .. => true
  | _ => false

def isJoined (context : Context) : Bool :=
  match context.following with
  | .joined _ => true
  | _ => false

def withPictureMark (context : Context) : Context :=
  if context.hasLetters || context.isJoined then { context with mark := some .picture }
  else { mark := some .picture }

def withTextMark (context : Context) : Context :=
  if context.hasLetters then { context with mark := some .text } else { mark := some .text }

/-- What is left when the character before a mark for a picture has none. -/
def withoutPictureMark (context : Context) : Context :=
  if context.hasLetters then { context with mark := none } else {}

end Context

def joiner : Char := '\u200D'

def isPassedOver (c : Char) : Bool :=
  inRuns [(0x34F, 0x34F), (0x17B4, 0x17B5), (0x180B, 0x180D), (0x180F, 0x180F), (0x200D, 0x200D),
    (0xFE00, 0xFE0F), (0xE0100, 0xE01EF)] c

def isFlagLetter (c : Char) : Bool := inRuns [(0x1F1E6, 0x1F1FF)] c

def isSkinTone (c : Char) : Bool := inRuns [(0x1F3FB, 0x1F3FF)] c

def isTagLetter (c : Char) : Bool := inRuns [(0xE0061, 0xE007A)] c

def isTagDigit (c : Char) : Bool := inRuns [(0xE0030, 0xE0039)] c

def isQuotationMark (c : Char) : Bool := inRuns [(0x2018, 0x2019), (0x201C, 0x201D)] c

/-- Pictures that a mark turns into text of one column; enclosed ideographs stay wide. -/
def isPictureOrText (c : Char) : Bool :=
  inRuns presentationRuns c && inRuns emojiRuns c && !inRuns [(0x1F200, 0x1F2FF)] c

def asFollowing (c : Char) : Following :=
  match c.toNat with
  | 0x0A => .lineFeed
  | 0x5DC => .ligature .lamed false
  | 0x1A10 => .ligature .ya false
  | 0xA4FC | 0xA4FD => .ligature .tone false
  | 0xFE01 => .fullWidth
  | 0x10C03 => .ligature .orkhonI false
  | 0x16D67 => .vowelE
  | 0x16D68 => .vowelAi
  | _ =>
    if inRuns alefRuns c then .alef
    else if inRuns subscriptRuns c then .ligature .subscript false
    else if inRuns tifinaghRuns c then .ligature .consonant false
    else if isFlagLetter c then .flagLetter false
    else if isSkinTone c then .skinTone
    else if inRuns emojiRuns c then .picture
    else .plain

def charWidth (c : Char) : Nat :=
  if c.toNat = 0x17D8 then 3
  else if inRuns weightlessRuns c then 0
  else if inRuns wideRuns c then 2
  else 1

/-- The columns that a letter adds to those after it, when it joins them, and what they then are. -/
def joinLetter? (c : Char) (last : Ligature) (isJoined : Bool) : Option (Int × Following) :=
  if c = joiner then some (0, .ligature last true)
  else if isPassedOver c then some (0, .ligature last isJoined)
  else
    match last with
    | .lamed => if isJoined ∧ c.toNat = 0x5D0 then some (0, .plain) else none
    | .ya => if isJoined ∧ c.toNat = 0x1A17 then some (0, .ligature .vowelYa true) else none
    | .vowelYa => if c.toNat = 0x1A15 then some (0, .plain) else none
    | .consonant =>
      if c.toNat = 0x2D7F then some (1, .ligature .joinerConsonant true)
      else if isJoined ∧ inRuns tifinaghRuns c then some (0, .plain)
      else none
    | .joinerConsonant => if inRuns tifinaghRuns c then some (-1, .plain) else none
    | .tone => if inRuns [(0xA4F8, 0xA4FB)] c then some (0, .plain) else none
    | .orkhonI => if isJoined ∧ c.toNat = 0x10C32 then some (0, .plain) else none
    | .subscript => if c.toNat = 0x17D2 then some (-1, .plain) else none

def joinPicture? (c : Char) : Option (Int × Following) :=
  if c.toNat = 0x20E3 then some (0, .joined true)
  else if isFlagLetter c then some (1, .joinedFlag 1)
  else if isSkinTone c then some (0, .skinTone)
  else if c.toNat = 0xE007F then some (0, .joinedTag false 0)
  else if inRuns emojiRuns c then some (0, .picture)
  else none

/-- One more character of a tag of letters or digits, or the flag that the tag is for. -/
def joinTag? (c : Char) (isDigits : Bool) (count : Nat) : Option (Int × Following) :=
  if isTagLetter c ∧ !isDigits ∧ count < 6 then some (0, .joinedTag false (count + 1))
  else if isTagDigit c ∧ !isDigits ∧ count < 5 then some (0, .joinedTag true 1)
  else if isTagDigit c ∧ isDigits ∧ count < 3 then some (0, .joinedTag true (count + 1))
  else if c.toNat = 0x1F3F4 ∧ 3 ≤ count then some (0, .picture)
  else none

def join? (c : Char) : Following → Option (Int × Following)
  | .fullWidth => if isQuotationMark c then some (2, .plain) else none
  | .picture => if c = joiner then some (0, .joined false) else none
  | .skinTone =>
    if inRuns skinToneBaseRuns c then some (0, .picture)
    else if c = joiner then some (0, .joined false)
    else none
  | .flagLetter isSeveral =>
    if isFlagLetter c then some (1, .flagLetter true)
    else if isSeveral ∧ c = joiner then some (0, .joined false)
    else none
  | .joined false => joinPicture? c
  | .joinedFlag letters =>
    if isFlagLetter c then
      some (if letters % 2 = 1 then -1 else 3, .joinedFlag (letters + 1))
    else if 2 ≤ letters ∧ c = joiner then some (0, .joined false)
    else none
  | .joinedTag isDigits count => joinTag? c isDigits count
  | .alef =>
    if inRuns lamRuns c then some (0, .plain)
    else if inRuns weightlessRuns c && !inRuns interruptingRuns c then some (0, .alef)
    else none
  | .ligature last isJoined => joinLetter? c last isJoined
  | .vowelE =>
    match c.toNat with
    | 0x16D63 | 0x16D69 => some (0, .plain)
    | 0x16D67 => some (0, .vowelAi)
    | 0x16D68 => some (1, .vowelE)
    | _ => none
  | .vowelAi => if c.toNat = 0x16D63 then some (0, .plain) else none
  | .plain | .lineFeed | .joined true => none

/-- The columns that a character adds to those of what follows it, and the context of the one
before. -/
def addChar (c : Char) (context : Context) : Int × Context :=
  if context.mark = some .picture ∧ inRuns presentationRuns c then
    (if context.isJoined then 0 else 2, { following := .picture })
  else
    let context := if context.mark = some .picture then context.withoutPictureMark else context
    if c.toNat ≤ 0xA0 then
      (if c = '\r' ∧ context.following = .lineFeed then 0 else 1, { following := asFollowing c })
    else if c.toNat = 0xFE0F then (0, context.withPictureMark)
    else if c.toNat = 0xFE0E then (0, context.withTextMark)
    else if context.mark = some .text ∧ isPictureOrText c then (1, {})
    else
      match join? c context.following with
      | some (columns, following) => (columns, { following })
      | none => (charWidth c, { following := asFollowing c })

def width (s : String) : Nat :=
  (s.toList.foldr (fun c (columns, context) =>
    let (added, context) := addChar c context
    (columns + added, context)) ((0 : Int), ({} : Context))).1.toNat

end Rota.Text
