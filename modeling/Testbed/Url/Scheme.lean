/-!
# Schemes

A scheme is the word before the first colon. Those of the web always have a host and a port of their
own; they and the scheme of files take a backslash for a slash.
-/

namespace Testbed.Url

/-- The default port of the schemes that always have a host. -/
def ownPort? : String → Option UInt16
  | "http" | "ws" => some 80
  | "https" | "wss" => some 443
  | "ftp" => some 21
  | _ => none

def isHosted (scheme : String) : Bool := (ownPort? scheme).isSome

def fileScheme : String := "file"

/-- Schemes in which a backslash is as good as a slash. -/
def isSpecial (scheme : String) : Bool := isHosted scheme || scheme = fileScheme

def isSchemeChar (c : Char) : Bool := c.isAlphanum || c = '+' || c = '-' || c = '.'

/-- The scheme in lower case and what follows its colon. -/
def splitScheme? (cs : List Char) : Option (String × List Char) :=
  let name := cs.takeWhile isSchemeChar
  match cs.drop name.length with
  | ':' :: rest =>
    if (name.head?.map Char.isAlpha).getD false then
      some (String.ofList (name.map Char.toLower), rest)
    else none
  | _ => none

def isSlash (c : Char) : Bool := c = '/' || c = '\\'

end Testbed.Url
