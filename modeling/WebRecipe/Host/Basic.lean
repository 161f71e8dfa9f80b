import WebRecipe.Address
import WebRecipe.Host.DomainName
import WebRecipe.Text.Percent

/-!
# Hosts

A host is named or given by its address. Where hosts are domains, a name whose last label is a number is an
address of four bytes, and any other name has a form in ASCII; elsewhere a name is kept as it stands. An
address of eight groups stands in brackets.
-/

namespace WebRecipe

/-- A host in its normal form. -/
inductive Host where
  | named (name : String)
  | address (a : Address)
  deriving Repr, DecidableEq

namespace Host

/-- A host as text. -/
def text : Host → String
  | named name => name
  | address (.groups gs) => "[" ++ (Address.groups gs).text ++ "]"
  | address a => a.text

/-- Whether a label can only belong to an address. -/
def isNumeric (label : List Char) : Bool :=
  !label.isEmpty && (label.all isDigit || (Address.number? label).isSome)

/-- Labels without an empty one at the end. -/
def withoutRoot (labels : List (List Char)) : List (List Char) :=
  if labels.getLast? == some [] then labels.dropLast else labels

/-- The host with a domain name in ASCII. -/
def ofDomain? (name : List Char) : Option Host :=
  let labels := withoutRoot (Text.splitChar '.' name)
  if name.isEmpty then none
  else if labels.getLast?.any isNumeric then (Address.ofNumbers? labels).map address
  else some (named (String.ofList name))

/-- The host in brackets. -/
def ofBrackets? (cs : List Char) : Option Host :=
  if cs.getLast? == some ']' then (Address.groups? (cs.drop 1).dropLast).map (address ∘ .groups) else none

/-- The host that a text names where hosts are domains; the text may have percent signs for bytes. -/
def ofText? (cs : List Char) : Option Host :=
  if cs.head? == some '[' then ofBrackets? cs
  else do
    let decoded ← Percent.decodeText? cs
    let name ← DomainName.toAscii? decoded.toList
    ofDomain? name

/-- Whether a character must not stand in a name that is kept as it stands. -/
def isForbidden (c : Char) : Bool :=
  "\x00\t\n\r #/:<>?@[\\]^|".toList.contains c

/-- The host that a text names where hosts need not be domains. -/
def ofPlainText? (cs : List Char) : Option Host :=
  if cs.head? == some '[' then ofBrackets? cs
  else if cs.any isForbidden then none
  else some (named (String.ofList (Percent.encode (fun _ ↦ false) cs)))

end Host
end WebRecipe
