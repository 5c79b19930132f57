import Docket.Http.Call
import Docket.Proofs.Http.Path

/-!
# The place of a call

The URL of a call is its base with more segments and more pairs, and nothing
else. Whatever text the call brings stands in the place that it was meant for:
read back, the segments and the pairs are those of the base and then those of
the call, and whom the call goes to is said by the base alone.

A path that is a lone slash has no names. The base gives its path without an
empty last part, so that a slash at its end makes no difference.

* `readPairs_pairChars`, `pairs_query` — pairs are read as they were added.
* `parse_network` — the path and the query of a base that was read.
* `Call.url_extends_base` — the URL of a call.
-/

namespace Docket.Http

open Text (bytesOf splitAll)

namespace Url

/-- The segments of the path, between its slashes. -/
def segments? (url : Url) : Option (List (List Char)) :=
  match url.path.chars with
  | '/' :: text => some (splitAll (· = '/') text)
  | _ => none

/-- The key and the value of one piece of a query. -/
def readPair (piece : List Char) : List UInt8 × List UInt8 :=
  let (key, value?) := cut '=' piece
  (Percent.formDecode key, Percent.formDecode (value?.getD []))

/-- The pairs that a query is read as. Empty pieces do not count. -/
def readPairs (query : List Char) : List (List UInt8 × List UInt8) :=
  ((splitAll (· = '&') query).filter fun piece => !piece.isEmpty).map readPair

/-- The pairs of the query. -/
def pairs (url : Url) : List (List UInt8 × List UInt8) :=
  readPairs (url.query?.getD [])

/-- The bytes of a key and of its value. -/
def pairBytes (pair : List Char × List Char) : List UInt8 × List UInt8 :=
  (bytesOf pair.1, bytesOf pair.2)

/-- Text in front of the first stop is cut off there. -/
theorem cut_append_cons {stop : Char} {front : List Char} (h : stop ∉ front) (rest : List Char) :
    cut stop (front ++ stop :: rest) = (front, some rest) := by
  have hfront : ∀ c ∈ front, decide (c ≠ stop) = true := by
    intro c hc
    rw [decide_eq_true_eq]
    intro heq
    rw [heq] at hc
    exact h hc
  have hbehind : (front ++ stop :: rest).dropWhile (· ≠ stop) = stop :: rest := by
    rw [List.dropWhile_append_of_pos hfront, List.dropWhile_cons_of_neg (by simp)]
  have hbefore : (front ++ stop :: rest).takeWhile (· ≠ stop) = front := by
    rw [List.takeWhile_append_of_pos hfront, List.takeWhile_cons_of_neg (by simp), List.append_nil]
  rw [cut, hbehind, hbefore]

/-- The pairs of two queries with the sign for more between them. -/
theorem readPairs_append (before after : List Char) :
    readPairs (before ++ '&' :: after) = readPairs before ++ readPairs after := by
  rw [readPairs, Text.splitAll_append_cons (decide_eq_true rfl), List.filter_append,
    List.map_append]
  rfl

/-- A pair holds its own sign, and neither of those that end a pair or a query. -/
theorem of_mem_pairChars {pair : List Char × List Char} {c : Char} (h : c ∈ pairChars pair) :
    c.isAlphanum = true ∨ c ∈ ['=', '%', '+', '*', '-', '.', '_'] := by
  rw [pairChars, List.mem_append, List.mem_cons] at h
  rcases h with hkey | hsign | hvalue
  · exact (Percent.of_mem_formEncode hkey).imp_right (List.mem_cons_of_mem '=')
  · rw [hsign]
    exact Or.inr List.mem_cons_self
  · exact (Percent.of_mem_formEncode hvalue).imp_right (List.mem_cons_of_mem '=')

/-- A pair is read as its bytes. -/
theorem readPairs_pairChars (pair : List Char × List Char) :
    readPairs (pairChars pair) = [pairBytes pair] := by
  have hkey : '=' ∉ Percent.formEncode pair.1 := fun hmem =>
    absurd (Percent.of_mem_formEncode hmem) (by decide)
  have hpiece : '&' ∉ pairChars pair := fun hmem =>
    absurd (of_mem_pairChars hmem) (by decide)
  have hfilled : [pairChars pair].filter (fun piece => !piece.isEmpty) = [pairChars pair] :=
    List.filter_cons_of_pos (by simp [pairChars])
  have hread : readPair (pairChars pair) = pairBytes pair := by
    rw [readPair, pairChars, cut_append_cons hkey, pairBytes]
    simp only [Option.getD_some, Percent.formDecode_formEncode]
  rw [readPairs, Text.splitAll_of_not_mem hpiece, hfilled, List.map_singleton, hread]

/-- Pairs with the sign for more between them are read one after another. -/
theorem readPairs_intercalate (added : List (List Char × List Char)) :
    readPairs (['&'].intercalate (added.map pairChars)) = added.map pairBytes := by
  induction added with
  | nil => rfl
  | cons pair rest ih =>
      cases rest with
      | nil =>
          rw [List.map_singleton, List.intercalate_singleton]
          exact readPairs_pairChars pair
      | cons next others =>
          rw [List.map_cons, List.map_cons, List.intercalate_cons_cons, List.append_assoc,
            List.singleton_append, readPairs_append, readPairs_pairChars, ← List.map_cons, ih]
          rfl

/-- No pairs change nothing. Others stand behind the query, or alone where there
is none. -/
theorem query_cases (url : Url) (added : List (List Char × List Char)) :
    added = [] ∧ url.query added = url ∨
      ∃ front, url.query added =
          { url with query? := some (front ++ ['&'].intercalate (added.map pairChars)) } ∧
        (url.query?.getD [] = [] ∧ front = [] ∨
          ∃ old, url.query? = some old ∧ front = old ++ ['&']) := by
  rw [query]
  by_cases hnone : added.isEmpty = true
  · rw [if_pos hnone]
    exact Or.inl ⟨List.isEmpty_iff.mp hnone, rfl⟩
  rw [if_neg hnone]
  right
  split
  · next hquery => exact ⟨[], rfl, Or.inl ⟨by rw [hquery]; rfl, rfl⟩⟩
  · next hquery => exact ⟨[], rfl, Or.inl ⟨by rw [hquery]; rfl, rfl⟩⟩
  · next old _ hquery =>
      refine ⟨old ++ ['&'], ?_, Or.inr ⟨old, hquery, rfl⟩⟩
      rw [List.append_assoc, List.singleton_append]

/-- Pairs that are added change nothing but the query. -/
theorem query_eq (url : Url) (added : List (List Char × List Char)) :
    ∃ query?, url.query added = { url with query? } := by
  rcases url.query_cases added with ⟨-, hsame⟩ | ⟨front, hlonger, -⟩
  · exact ⟨url.query?, hsame⟩
  · exact ⟨_, hlonger⟩

/-- **Pairs that are added** are read behind those of the query. -/
theorem pairs_query (url : Url) (added : List (List Char × List Char)) :
    (url.query added).pairs = url.pairs ++ added.map pairBytes := by
  rcases url.query_cases added with ⟨hnone, hsame⟩ | ⟨front, hlonger, hfront⟩
  · rw [hsame, hnone, List.map_nil, List.append_nil]
  rw [hlonger, pairs, pairs, Option.getD_some, ← readPairs_intercalate]
  rcases hfront with ⟨hempty, hfront⟩ | ⟨old, hold, hfront⟩
  · rw [hempty, hfront]
    rfl
  · rw [hold, hfront, List.append_assoc]
    exact readPairs_append old _

/-- Pairs that are added do not end the query. -/
theorem not_mem_query {url : Url} (h : ∀ q, url.query? = some q → '#' ∉ q)
    (added : List (List Char × List Char)) :
    ∀ q, (url.query added).query? = some q → '#' ∉ q := by
  have hadded : '#' ∉ ['&'].intercalate (added.map pairChars) := by
    intro hmem
    rcases Text.of_mem_intercalate hmem with hsign | ⟨piece, hpiece, hinside⟩
    · exact absurd hsign (by decide)
    · obtain ⟨pair, -, hpair⟩ := List.mem_map.mp hpiece
      rw [← hpair] at hinside
      exact absurd (of_mem_pairChars hinside) (by decide)
  rcases url.query_cases added with ⟨-, hsame⟩ | ⟨front, hlonger, hfront⟩
  · rw [hsame]
    exact h
  have hclosed : '#' ∉ front := by
    rcases hfront with ⟨-, hfront⟩ | ⟨old, hold, hfront⟩
    · rw [hfront]
      exact List.not_mem_nil
    · rw [hfront, List.mem_append, List.mem_singleton]
      intro hmem
      exact hmem.elim (h old hold) (by decide)
  intro q hq
  rw [hlonger] at hq
  rw [← Option.some.inj hq, List.mem_append]
  intro hmem
  exact hmem.elim hclosed hadded

/-- The scheme has domain names. -/
theorem kind_eq_network {url : Url} (h : url.scheme = "http".toList ∨ url.scheme = "https".toList) :
    url.kind = .network := by
  rw [kind]
  rcases h with hplain | hsecure
  · rw [hplain]
    decide
  · rw [hsecure]
    decide

/-- The place on a host has a path that comes apart. -/
theorem readPlace_network {scheme cs : List Char} {more : Bool} {authority? : Option Authority}
    {path : Path} (hkind : SchemeKind.ofScheme scheme = .network)
    (h : readPlace scheme more cs = .ok (authority?, path)) :
    ∃ parts, path = .segments false parts ∧ Path.IsParted parts := by
  simp only [readPlace, hkind] at h
  obtain ⟨_, -, hplace⟩ := ok_bind_iff.mp h
  have hpath := (Prod.mk.inj (Except.ok.inj hplace)).2
  exact ⟨_, hpath.symm, Path.isParted_walk _⟩

/-- A URL on a host that was read has a path that comes apart, and a query that
does not end early. -/
theorem parse_network {s : String} {url : Url} (h : parse s = .ok url)
    (hkind : url.kind = .network) :
    (∃ parts, url.path = .segments false parts ∧ Path.IsParted parts) ∧
      ∀ q, url.query? = some q → '#' ∉ q := by
  simp only [parse] at h
  split at h
  · obtain ⟨_, hplace, hdone⟩ := ok_bind_iff.mp h
    have hurl := Except.ok.inj hdone
    rw [← hurl] at hkind ⊢
    constructor
    · exact readPlace_network hkind hplace
    · intro q hq
      obtain ⟨text, -, htext⟩ := Option.map_eq_some_iff.mp hq
      rw [← htext]
      exact Percent.not_mem_encode (List.mem_append_left _ (by decide)) (by decide) (by decide)
  · cases h

/-- One URL is another with more segments at the end of the path, and more pairs
at the end of the query. Both are told as they are read back, byte by byte. -/
structure Extends (base url : Url) (segments : List (List Char))
    (added : List (List Char × List Char)) : Prop where
  scheme : url.scheme = base.scheme
  authority : url.authority? = base.authority?
  fragment : url.fragment? = base.fragment?
  segments : ∃ before after, base.segments? = some before ∧ url.segments? = some after ∧
    (Path.named after).map Percent.decode =
      (Path.named (Path.withoutEmptyEnd before)).map Percent.decode ++ segments.map bytesOf
  pairs : url.pairs = base.pairs ++ added.map pairBytes
  /-- Nothing in the path ends it. -/
  pathClosed : ∀ c ∈ url.path.chars, c ≠ '?' ∧ c ≠ '#'
  /-- Nothing in the query ends it. -/
  queryClosed : ∀ q, url.query? = some q → '#' ∉ q

/-- The path that comes apart is read as its parts. -/
theorem segments?_eq {url : Url} {parts : List (List Char)} (hpath : url.path = .segments false parts)
    (hparts : Path.IsParted parts) : url.segments? = some parts := by
  obtain ⟨text, hchars, hsplit⟩ := hparts.chars_eq
  rw [segments?, hpath, hchars]
  exact congrArg some hsplit

/-- Names that are added to a path are read behind those of the path. -/
theorem decode_foldl_pushSegment {segments : List (List Char)}
    (hnames : ∀ segment ∈ segments, Path.IsName segment) (parts : List (List Char)) :
    (Path.named (segments.foldl (Path.pushSegment .network) (Path.dropEmptyEnd parts))).map
        Percent.decode =
      (Path.named (Path.withoutEmptyEnd parts)).map Percent.decode ++ segments.map bytesOf := by
  have hread : ∀ segment : List Char,
      Percent.decode (Percent.encode Percent.segmentSet segment) = bytesOf segment :=
    Percent.decode_encode (by decide)
  rw [Path.named_foldl_pushSegment hnames, Path.named_dropEmptyEnd, List.map_append, List.map_map]
  exact congrArg _ (List.map_congr_left fun segment _ => hread segment)

/-- Names that are added to a URL on a host extend it. -/
theorem extends_push? {base : Url} {parts segments : List (List Char)}
    (hkind : base.kind = .network) (hpath : base.path = .segments false parts)
    (hparts : Path.IsParted parts) (hquery : ∀ q, base.query? = some q → '#' ∉ q)
    (hnames : ∀ segment ∈ segments, Path.IsName segment) :
    ∃ url, base.push? segments = some url ∧ base.Extends url segments [] := by
  have hjoined := Path.isParted_foldl_pushSegment hnames hparts.dropEmptyEnd
  refine ⟨{ base with path := .segments false (segments.foldl (Path.pushSegment .network)
    (Path.dropEmptyEnd parts)) }, ?_, ?_⟩
  · rw [push?, hpath, hkind]
    rfl
  · constructor
    case scheme => rfl
    case authority => rfl
    case fragment => rfl
    case segments =>
      exact ⟨parts, _, segments?_eq hpath hparts, segments?_eq rfl hjoined,
        decode_foldl_pushSegment hnames parts⟩
    case pairs => exact (List.append_nil _).symm
    case pathClosed => exact fun c hc => hjoined.of_mem_chars hc
    case queryClosed => exact hquery

/-- Pairs that are added to it extend it further. -/
theorem Extends.query {base url : Url} {segments : List (List Char)}
    {old : List (List Char × List Char)} (h : base.Extends url segments old)
    (added : List (List Char × List Char)) :
    base.Extends (url.query added) segments (old ++ added) := by
  obtain ⟨query?, heq⟩ := query_eq url added
  have hpairs : (url.query added).pairs = base.pairs ++ (old ++ added).map pairBytes := by
    rw [pairs_query, h.pairs, List.map_append, List.append_assoc]
  have hclosed := not_mem_query h.queryClosed added
  rw [heq] at hpairs hclosed ⊢
  exact ⟨h.scheme, h.authority, h.fragment, h.segments, hpairs, h.pathClosed, hclosed⟩

end Url

/-- **No text of a call leaves its place.** Where every segment of a call is a
name, its URL under a base with a host is the base with the segments of the call
behind its path and the pairs of the call behind its query. -/
theorem Call.url_extends_base {call : Call} {base : String} {place : Url}
    (hbase : Url.parse base = .ok place)
    (hscheme : place.scheme = "http".toList ∨ place.scheme = "https".toList)
    (hnames : ∀ segment ∈ call.segments, Path.IsName segment.toList) :
    ∃ url, call.url base = .ok url ∧
      Url.Extends place url (call.segments.map String.toList)
        (call.query.map fun pair => (pair.1.toList, pair.2.toList)) := by
  have hkind := Url.kind_eq_network hscheme
  obtain ⟨⟨parts, hpath, hparts⟩, hquery⟩ := Url.parse_network hbase hkind
  have hsegments : ∀ segment ∈ call.segments.map String.toList, Path.IsName segment := by
    intro segment hsegment
    obtain ⟨text, htext, heq⟩ := List.mem_map.mp hsegment
    rw [← heq]
    exact hnames text htext
  obtain ⟨longer, hpush, hlonger⟩ := Url.extends_push? hkind hpath hparts hquery hsegments
  refine ⟨_, ?_, hlonger.query (call.query.map fun pair => (pair.1.toList, pair.2.toList))⟩
  simp only [Call.url, hbase, hpush]

deriving instance DecidableEq for Authority, Path, Url

/-- A URL was read if there is one. -/
theorem Url.parse_of_toOption {s : String} {url : Url} (h : (parse s).toOption = some url) :
    parse s = .ok url := by
  cases hread : parse s with
  | error bad =>
      rw [hread] at h
      cases h
  | ok found =>
      rw [hread] at h
      exact congrArg Except.ok (Option.some.inj h)

/-- Text that is full of signs stays where it was put, behind a base that ends in
a slash and has a pair already. -/
theorem Call.url_extends_base_of_signs :
    ∃ place url, Url.parse "https://h/api/?a=b+c" = .ok place ∧
      ((Call.get ["r 1/2", "%2e", "?é#"]).asking "k&=" "v+ #").url "https://h/api/?a=b+c" =
        .ok url ∧
      Url.Extends place url ["r 1/2".toList, "%2e".toList, "?é#".toList]
        [("k&=".toList, "v+ #".toList)] := by
  have hbase : Url.parse "https://h/api/?a=b+c" =
      .ok ⟨"https".toList, some ⟨[], [], "h".toList, none⟩,
        .segments false ["api".toList, []], some "a=b+c".toList, none⟩ :=
    Url.parse_of_toOption (by decide +kernel)
  have hnames : ∀ segment ∈ ["r 1/2", "%2e", "?é#"], Path.IsName segment.toList := by
    intro segment hsegment
    rw [List.mem_cons, List.mem_cons, List.mem_singleton] at hsegment
    rcases hsegment with rfl | rfl | rfl
    · exact ⟨by decide, by decide, by decide, by simp [Path.isDropped]⟩
    · exact ⟨by decide, by decide, by decide, by simp [Path.isDropped]⟩
    · exact ⟨by decide, by decide, by decide, by simp [Path.isDropped]⟩
  obtain ⟨url, hurl, hextends⟩ := @Call.url_extends_base
    ((Call.get ["r 1/2", "%2e", "?é#"]).asking "k&=" "v+ #") _ _ hbase (by decide) hnames
  exact ⟨_, url, hbase, hurl, hextends⟩

/-- **A lone slash is filled.** Where the path of the base is two slashes, the
empty part before the last one does not stay in front of the segments. -/
theorem Call.url_fills_lone_slash :
    ¬ ∀ (call : Call) (base : String) (place url : Url) (before after : List (List Char)),
      Url.parse base = .ok place →
      place.scheme = "http".toList ∨ place.scheme = "https".toList →
      (∀ segment ∈ call.segments, Path.IsName segment.toList) →
      call.url base = .ok url →
      place.segments? = some before → url.segments? = some after →
      after.map Percent.decode =
        (Path.withoutEmptyEnd before).map Percent.decode ++
          call.segments.map fun segment => bytesOf segment.toList := by
  intro hlaw
  have hbase : Url.parse "http://h//" =
      .ok ⟨"http".toList, some ⟨[], [], "h".toList, none⟩, .segments false [[], []],
        none, none⟩ :=
    Url.parse_of_toOption (by decide +kernel)
  have hurl : (Call.get ["s"]).url "http://h//" =
      .ok ⟨"http".toList, some ⟨[], [], "h".toList, none⟩, .segments false ["s".toList],
        none, none⟩ := by
    rw [Call.url, hbase]
    rfl
  have hname : ∀ segment ∈ ["s"], Path.IsName segment.toList := by
    intro segment hsegment
    rw [List.mem_singleton.mp hsegment]
    exact ⟨by decide, by decide, by decide, by simp [Path.isDropped]⟩
  have hkept := hlaw (Call.get ["s"]) "http://h//" _ _ [[], []] ["s".toList] hbase (by decide)
    hname hurl rfl rfl
  exact absurd hkept (by decide)

end Docket.Http
