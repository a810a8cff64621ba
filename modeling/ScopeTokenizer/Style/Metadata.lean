import ScopeTokenizer.Style.Font
import ScopeTokenizer.Style.TokenKind

/-!
# Packed metadata

All that a painter needs to know about a token in one 32-bit word:

    bbbbbbbbb fffffffff FFF TTT LLLLLLLL

from the lowest bit up a language (8 bits), a token kind (3), a font style (3), a
foreground (9) and a background (9). In every field zero, or no value, means unset.
-/

namespace ScopeTokenizer.Style

/-- A packed metadata word. -/
structure Metadata where
  word : UInt32
  deriving DecidableEq

namespace Metadata

def languageMask : UInt32 := 0x000000ff
def kindMask : UInt32 := 0x00000700
def fontMask : UInt32 := 0x00003800
def foregroundMask : UInt32 := 0x007fc000
def backgroundMask : UInt32 := 0xff800000

/-- The word in which every field is unset. -/
def unset : Metadata := ⟨0⟩

/-- The language of the text, zero when unset. -/
def language (m : Metadata) : UInt8 := (m.word &&& languageMask).toUInt8

/-- The token kind. -/
def kind (m : Metadata) : TokenKind := .ofBits ((m.word &&& kindMask) >>> 8)

/-- The font style. -/
def font (m : Metadata) : Font := .ofBits ((m.word &&& fontMask) >>> 11).toNat

/-- The foreground's number in the color map, zero when unset. -/
def foreground (m : Metadata) : UInt32 := (m.word &&& foregroundMask) >>> 14

/-- The background's number in the color map, zero when unset. -/
def background (m : Metadata) : UInt32 := (m.word &&& backgroundMask) >>> 23

/-- Packs the five fields; each keeps only the bits its place has room for. -/
def pack (language : UInt8) (kind : TokenKind) (font : Font) (foreground background : UInt32) :
    Metadata :=
  ⟨language.toUInt32 ||| ((kind.bits <<< 8) &&& kindMask) |||
    ((UInt32.ofNat font.bits <<< 11) &&& fontMask) |||
    ((foreground <<< 14) &&& foregroundMask) ||| ((background <<< 23) &&& backgroundMask)⟩

/-- Replaces the fields that are given a value and keeps the others. A kind of `other`
is no value; `embedded` is one, and is packed as `other`. -/
def set (m : Metadata) (language : UInt8) (kind : TokenKind) (font : Option Font)
    (foreground background : UInt32) : Metadata :=
  pack (if language = 0 then m.language else language)
    (if kind = .other then m.kind else kind)
    (font.getD m.font)
    (if foreground = 0 then m.foreground else foreground)
    (if background = 0 then m.background else background)

/-- The fields of a word, spelled out. -/
def describe (m : Metadata) : String :=
  let language := m.language
  let kind := m.kind.name
  let font := m.font.bits
  let foreground := m.foreground
  let background := m.background
  s!"Metadata \x7b language_id: {language}, token_type: {kind}, font_style: FontStyle \x7b bits: {font} \x7d, foreground: {foreground}, background: {background} \x7d"

end Metadata

end ScopeTokenizer.Style
