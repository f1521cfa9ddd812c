import Mathlib.Data.List.SplitBy
import Conformance.ForStd.Utf8
import Conformance.Native.CatalogueRequest
import Conformance.Native.JsonText
import Conformance.Native.UrlValidation

/-!
# Queries of URLs

What `urllib.parse` does with the query of a URL: `unquote_plus`, `parse_qsl`, `urlencode`
and `urlunsplit`.
-/

namespace Conformance

/-! ## Decoding -/

/-- `_unquote_impl`, of ASCII text. -/
def unquoteBytes : List Char → List UInt8
  | [] => []
  | c :: rest =>
    match c, rest with
    | '%', high :: low :: tail =>
      match hexValue? high, hexValue? low with
      | some high, some low => UInt8.ofNat (16 * high + low) :: unquoteBytes tail
      | _, _ => '%'.toUInt8 :: unquoteBytes (high :: low :: tail)
    | c, rest => c.toUInt8 :: unquoteBytes rest

/-- A character of `[\x00-\x7f]`. -/
def isAsciiChar (c : Char) : Bool := c.toNat < 128

/-- `unquote`: the escapes of every run of ASCII characters are decoded together. -/
def unquote (cs : List Char) : List Char :=
  (cs.splitBy fun c d => isAsciiChar c == isAsciiChar d).flatMap fun run =>
    if run.all isAsciiChar = true then Utf8.decodeReplace (unquoteBytes run) else run

/-- `unquote_plus`. -/
def unquotePlus (cs : List Char) : List Char :=
  unquote (cs.map fun c => if c = '+' then ' ' else c)

/-- `parse_qsl(query, keep_blank_values=True)`. -/
def parseQsl (query : List Char) : List (List Char × List Char) :=
  ((query.splitOn '&').filter (· ≠ [])).map fun nameValue =>
    let parts := partitionAt '=' nameValue
    (unquotePlus parts.1, unquotePlus parts.2)

/-! ## Encoding -/

/-- `quote_plus(text, safe=safe)`. -/
def quotePlusText (safe : List Char) (cs : List Char) : List Char :=
  cs.flatMap fun c => if c ∈ safe then [c] else CatalogueRequest.quotePlus c

/-- `urlencode(query, safe=safe)`. -/
def urlencode (safe : List Char) (query : List (List Char × List Char)) : List Char :=
  List.intercalate ['&'] (query.map fun item =>
    quotePlusText safe item.1 ++ '=' :: quotePlusText safe item.2)

/-! ## Unsplitting -/

/-- `uses_netloc`. -/
def usesNetloc : List String :=
  ["", "ftp", "http", "gopher", "nntp", "telnet", "imap", "wais", "file", "mms", "https", "shttp",
    "snews", "prospero", "rtsp", "rtsps", "rtspu", "rsync", "svn", "svn+ssh", "sftp", "nfs", "git",
    "git+ssh", "ws", "wss", "itms-services"]

namespace SplitResult

/-- The authority and the path of `urlunsplit`. -/
def hierarchy (url : SplitResult) : List Char :=
  if url.netloc ≠ [] then
    let path := if url.path ≠ [] ∧ url.path.head? ≠ some '/' then '/' :: url.path else url.path
    '/' :: '/' :: url.netloc ++ path
  else if "//".toList.isPrefixOf url.path = true then '/' :: '/' :: url.path
  else if url.scheme ≠ [] ∧ String.ofList url.scheme ∈ usesNetloc ∧
      (url.path = [] ∨ url.path.head? = some '/') then '/' :: '/' :: url.path
  else url.path

/-- `urlunsplit`. -/
def unsplit (url : SplitResult) : List Char :=
  (if url.scheme = [] then [] else url.scheme ++ [':']) ++ url.hierarchy ++
    (if url.query = [] then [] else '?' :: url.query) ++
    (if url.fragment = [] then [] else '#' :: url.fragment)

end SplitResult

end Conformance
