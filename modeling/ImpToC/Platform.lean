/-! Naming of executables, which differs between systems. -/
namespace ImpToC

inductive Platform where
  | windows | unix
  deriving DecidableEq, Repr

namespace Platform

def host : Platform := unix

def executableExtension : Platform → String
  | windows => ".exe"
  | unix => ""

def executableName (platform : Platform) (stem : String) : String :=
  stem ++ platform.executableExtension

end Platform

end ImpToC
