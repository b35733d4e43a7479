/-! Classes of characters, as brackets name them. -/
namespace ImpToC.CharClass

def inClass (name : String) (c : Char) : Bool := match name with
  | "alpha" => c.isAlpha
  | "digit" => c.isDigit
  | "alnum" => c.isAlphanum
  | "upper" => c.isUpper
  | "lower" => c.isLower
  | "space" => c == ' ' || ('\t' ≤ c && c ≤ '\r')
  | "blank" => c == ' ' || c == '\t'
  | "punct" => '!' ≤ c && c ≤ '~' && !c.isAlphanum
  | "print" => ' ' ≤ c && c ≤ '~'
  | "graph" => '!' ≤ c && c ≤ '~'
  | "cntrl" => c.toNat < 32 || c.toNat == 127
  | "xdigit" => c.isDigit || ('a' ≤ c && c ≤ 'f') || ('A' ≤ c && c ≤ 'F')
  | _ => false

inductive Member where
  | range (first last : Char)
  | ofClass (name : String)
  deriving DecidableEq

def Member.holds (c : Char) : Member → Bool
  | range first last => first ≤ c && c ≤ last
  | ofClass name => inClass name c

end ImpToC.CharClass
