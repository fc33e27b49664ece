import DuckCensus.Text.Characters

/-! What can go wrong, and the messages that say so. Texts are quoted in messages: in double quotes,
with every character that a reader could not see or could mistake written as an escape. -/
namespace DuckCensus
namespace Text

def codeEscape (c : Char) : List Char :=
  ['\\', 'u', '\x7b'] ++ Nat.toDigits 16 c.toNat ++ ['\x7d']

def escape (c : Char) : List Char :=
  if c = '"' then ['\\', '"']
  else if c = '\\' then ['\\', '\\']
  else if c = '\x00' then ['\\', '0']
  else if c = '\t' then ['\\', 't']
  else if c = '\n' then ['\\', 'n']
  else if c = '\r' then ['\\', 'r']
  else if isUnprintable c || extendsGrapheme c then codeEscape c
  else [c]

def quoted (cs : List Char) : List Char := '"' :: cs.flatMap escape ++ ['"']

end Text

namespace Selector

inductive Flaw where
  | missingKey
  | unterminatedSet
  | emptySet
  | unknownOperator
  deriving DecidableEq

def Flaw.phrase : Flaw → String
  | missingKey => "missing key"
  | unterminatedSet => "unterminated value set"
  | emptySet => "empty value set"
  | unknownOperator => "unknown operator"

structure Fault where
  flaw : Flaw
  requirement : String
  deriving DecidableEq

def Fault.message (f : Fault) : String :=
  f.flaw.phrase ++ " in requirement " ++ String.ofList (Text.quoted f.requirement.toList)

end Selector

inductive Failure where
  | kindNotFound (resource groupVersion : String)
  | resourceNotFound (kind groupVersion : String)
  /-- A reference names a kind that the cluster does not serve. -/
  | unknownResource (kind apiVersion : String)
  | invalidSelector (fault : Selector.Fault)
  deriving DecidableEq

def Failure.message : Failure → String
  | kindNotFound resource groupVersion =>
    "kind not found for " ++ resource ++ " in " ++ groupVersion
  | resourceNotFound kind groupVersion =>
    "resource not found for " ++ kind ++ " in " ++ groupVersion
  | unknownResource kind apiVersion =>
    "resource \"" ++ kind ++ " " ++ apiVersion ++ "\" not known to the cluster"
  | invalidSelector fault => "invalid definition selector: " ++ fault.message

end DuckCensus
