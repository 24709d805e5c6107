import Orama.Lib.Text

namespace Orama.Lib.Json

inductive Frame
  | objectKey
  | objectValue
  | arrayValue
deriving DecidableEq, Repr

inductive State
  | beginValue
  | beginValueOrEmpty
  | beginString
  | beginStringOrEmpty
  | endValue
  | endTop
  | inString
  | inStringEsc
  | inStringEscU (left : Nat)
  | neg
  | zero
  | digits
  | dot
  | fraction
  | exponent
  | exponentSign
  | exponentDigits
  | literal (rest : Bytes)
deriving DecidableEq, Repr

structure Scanner where
  state : State
  frames : List Frame
deriving DecidableEq, Repr

def maxNestingDepth : Nat := 10000
def isSpace (c : UInt8) : Bool := c = 32 || c = 9 || c = 13 || c = 10
def isDigit (c : UInt8) : Bool := 48 ≤ c && c ≤ 57

def push (frames : List Frame) (frame : Frame) (state : State) : Option Scanner :=
  if frames.length < maxNestingDepth then some ⟨state, frame :: frames⟩ else none

def pop (frames : List Frame) : Option Scanner :=
  match frames with
  | [] => some ⟨.endTop, []⟩
  | _ => some ⟨.endValue, frames⟩

def endTop (c : UInt8) : Option Scanner := if isSpace c then some ⟨.endTop, []⟩ else none

def endValue (frames : List Frame) (c : UInt8) : Option Scanner :=
  match frames with
  | [] => endTop c
  | frame :: outer =>
    if isSpace c then some ⟨.endValue, frames⟩
    else
      match frame with
      | .objectKey => if c = 58 then some ⟨.beginValue, .objectValue :: outer⟩ else none
      | .objectValue =>
        if c = 44 then some ⟨.beginString, .objectKey :: outer⟩ else if c = 125 then pop outer else none
      | .arrayValue => if c = 44 then some ⟨.beginValue, frames⟩ else if c = 93 then pop outer else none

def beginValue (frames : List Frame) (c : UInt8) : Option Scanner :=
  if isSpace c then some ⟨.beginValue, frames⟩
  else if c = 123 then push frames .objectKey .beginStringOrEmpty
  else if c = 91 then push frames .arrayValue .beginValueOrEmpty
  else if c = 34 then some ⟨.inString, frames⟩
  else if c = 45 then some ⟨.neg, frames⟩
  else if c = 48 then some ⟨.zero, frames⟩
  else if isDigit c then some ⟨.digits, frames⟩
  else if c = 116 then some ⟨.literal (ascii "rue"), frames⟩
  else if c = 102 then some ⟨.literal (ascii "alse"), frames⟩
  else if c = 110 then some ⟨.literal (ascii "ull"), frames⟩
  else none

def beginString (frames : List Frame) (c : UInt8) : Option Scanner :=
  if isSpace c then some ⟨.beginString, frames⟩ else if c = 34 then some ⟨.inString, frames⟩ else none

def afterInteger (frames : List Frame) (c : UInt8) : Option Scanner :=
  if c = 46 then some ⟨.dot, frames⟩
  else if c = 101 || c = 69 then some ⟨.exponent, frames⟩
  else endValue frames c

def exponentSign (frames : List Frame) (c : UInt8) : Option Scanner :=
  if isDigit c then some ⟨.exponentDigits, frames⟩ else none

def step (s : Scanner) (c : UInt8) : Option Scanner :=
  match s.state with
  | .beginValue => beginValue s.frames c
  | .beginValueOrEmpty =>
    if isSpace c then some s else if c = 93 then endValue s.frames c else beginValue s.frames c
  | .beginString => beginString s.frames c
  | .beginStringOrEmpty =>
    if isSpace c then some s
    else if c = 125 then endValue (.objectValue :: s.frames.tail) c
    else beginString s.frames c
  | .endValue => endValue s.frames c
  | .endTop => endTop c
  | .inString =>
    if c = 34 then some { s with state := .endValue }
    else if c = 92 then some { s with state := .inStringEsc }
    else if c < 32 then none
    else some s
  | .inStringEsc =>
    if (ascii "bfnrt\\/\"").contains c then some { s with state := .inString }
    else if c = 117 then some { s with state := .inStringEscU 4 }
    else none
  | .inStringEscU left =>
    if (hexValue c).isNone then none
    else if left ≤ 1 then some { s with state := .inString }
    else some { s with state := .inStringEscU (left - 1) }
  | .neg =>
    if c = 48 then some { s with state := .zero } else if isDigit c then some { s with state := .digits } else none
  | .zero => afterInteger s.frames c
  | .digits => if isDigit c then some s else afterInteger s.frames c
  | .dot => if isDigit c then some { s with state := .fraction } else none
  | .fraction =>
    if isDigit c then some s
    else if c = 101 || c = 69 then some { s with state := .exponent }
    else endValue s.frames c
  | .exponent => if c = 43 || c = 45 then some { s with state := .exponentSign } else exponentSign s.frames c
  | .exponentSign => exponentSign s.frames c
  | .exponentDigits => if isDigit c then some s else endValue s.frames c
  | .literal rest =>
    match rest with
    | [] => none
    | d :: rest =>
      if c = d then some { s with state := if rest = [] then .endValue else .literal rest } else none

def scan (s : Scanner) : Bytes → Option Scanner
  | [] => some s
  | c :: text =>
    match step s c with
    | none => none
    | some s => scan s text

def valid (text : Bytes) : Bool :=
  match scan ⟨.beginValue, []⟩ (text ++ [32]) with
  | none => false
  | some s => s.state = .endTop

def multibyte : List ((UInt8 × UInt8) × (UInt8 × UInt8) × Nat) :=
  [((0xc2, 0xdf), (0x80, 0xbf), 0), ((0xe0, 0xe0), (0xa0, 0xbf), 1), ((0xe1, 0xec), (0x80, 0xbf), 1),
    ((0xed, 0xed), (0x80, 0x9f), 1), ((0xee, 0xef), (0x80, 0xbf), 1), ((0xf0, 0xf0), (0x90, 0xbf), 2),
    ((0xf1, 0xf3), (0x80, 0xbf), 2), ((0xf4, 0xf4), (0x80, 0x8f), 2)]

def runeTail : Bytes → Option Nat
  | [] => none
  | b :: s =>
    if b < 0x80 then some 0
    else
      match s, multibyte.find? fun row => row.1.1 ≤ b && b ≤ row.1.2 with
      | c :: s, some (_, (low, high), more) =>
        if low ≤ c && c ≤ high && more ≤ s.length && (s.take more).all fun d => 0x80 ≤ d && d ≤ 0xbf then some (more + 1)
        else none
      | _, _ => none

def replaceInvalid : Nat → Bytes → Bytes
  | _, [] => []
  | left + 1, b :: s => b :: replaceInvalid left s
  | 0, b :: s =>
    match runeTail (b :: s) with
    | some left => b :: replaceInvalid left s
    | none => [0xef, 0xbf, 0xbd] ++ replaceInvalid 0 s

def roundTrip (s : Bytes) : Bytes := replaceInvalid 0 s

end Orama.Lib.Json
