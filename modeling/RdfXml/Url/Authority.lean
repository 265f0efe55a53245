import RdfXml.Url.Host
import RdfXml.Url.Scheme

/-
  Authorities of URLs in their normal form.

  Key definitions include:
    * `Url.userText`
    * `Url.portText?`
    * `Url.hostText?`
    * `Url.authorityText?`
-/

------------------------------------------------------------
-- User Information
------------------------------------------------------------

namespace RdfXml

namespace Url

/- User information with its delimiters encoded. -/
def userText (user : List Char) : List Char :=
  let name := user.takeWhile (· != ':')
  let password := user.drop (name.length + 1)
  let nameText := encodeWith inUserSet name
  let passwordText :=
    if password.isEmpty then []
    else ':' :: encodeWith inUserSet password
  if nameText.isEmpty && passwordText.isEmpty then []
  else nameText ++ passwordText ++ ['@']

/- What precedes the last at sign, and what follows it. -/
def splitUser
    (input : List Char) : Option (List Char) × List Char :=
  let host := (input.reverse.takeWhile (· != '@')).reverse
  if host.length < input.length then
    (some (input.take (input.length - host.length - 1)), host)
  else
    (none, input)

------------------------------------------------------------
-- Hosts And Ports
------------------------------------------------------------

/- The index of the colon in front of a port. -/
def portColon? : Bool → List Char → Option Nat
| _, [] => none
| inBrackets, c :: rest =>
    if c = ':' && !inBrackets then
      some 0
    else
      (portColon?
        (if c = '[' then true
          else if c = ']' then false
          else inBrackets) rest).map (· + 1)

/- A port with its colon, unless the scheme implies it. -/
def portText?
    (scheme : String)
    (port : List Char) : Option (List Char) :=
  if port.isEmpty then
    some []
  else
    match number? 10 port with
    | some value =>
        if 65535 < value then none
        else if defaultPort? scheme = some value then
          some []
        else
          some (':' :: (toString value).toList)
    | none => none

/-
  A host and a port, and what follows a backslash behind the
  port, from the backslash on.  The host may be empty only
  where no domain is needed, nothing precedes it, and no port
  follows it.
-/
def hostText?
    (scheme : String)
    (userText input : List Char) :
    Option (List Char × List Char) := do
  let colon? := portColon? false input
  let host := input.take (colon?.getD input.length)
  let behind := input.drop (host.length + 1)
  let port := behind.takeWhile (· != '\\')
  if host.isEmpty &&
      (isSpecial scheme || colon?.isSome ||
        !userText.isEmpty) then
    none
  else
    let hostText ← normalHost? (isSpecial scheme) host
    let portText ← portText? scheme port
    return (userText ++ hostText ++ portText,
      behind.drop port.length)

------------------------------------------------------------
-- Authorities
------------------------------------------------------------

/-
  The normal form of an authority, and what belongs to the
  path behind it.  An at sign with nothing around it may stand
  only at the end of a URL.
-/
def authorityText?
    (scheme : String)
    (isLast : Bool)
    (input : List Char) : Option (List Char × List Char) :=
  match splitUser input with
  | (none, host) => hostText? scheme [] host
  | (some user, host) =>
      if user.isEmpty && host.isEmpty && !isLast then none
      else hostText? scheme (userText user) host

end Url

end RdfXml
