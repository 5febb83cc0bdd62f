import Mathlib.Data.List.TakeWhile
import WorkWatch.Proofs.Net.Path

/-! Items of a collection. The URL of an item is that of its collection with one segment more. A
reference made of the path of a collection and an identifier leads to the item only if the identifier
can stand as a segment. -/

namespace WorkWatch.Net

open WorkWatch.Text

/-! The parts of a reference. -/

/-- A character that ends the path of a reference. -/
def endsPath (c : Char) : Bool := c = '?' || c = '#'

def pathPart (s : List Char) : List Char := (before endsPath s).1

def queryPart (s : List Char) : Option (List Char) :=
  (marked '?' (· = '#') (before endsPath s).2).1

def fragmentPart (s : List Char) : Option (List Char) :=
  (marked '#' (fun _ => false) (marked '?' (· = '#') (before endsPath s).2).2).1

theorem endsPath_eq_false_iff {c : Char} : endsPath c = false ↔ c ≠ '?' ∧ c ≠ '#' := by
  unfold endsPath
  rw [Bool.or_eq_false_iff, decide_eq_false_iff_not, decide_eq_false_iff_not]

theorem before_append {stop : Char → Bool} {s : List Char} (h : ∀ c ∈ s, stop c = false)
    (t : List Char) : before stop (s ++ t) = (s ++ (before stop t).1, (before stop t).2) := by
  have hall : ∀ c ∈ s, (!stop c) = true := by
    intro c hc
    rw [h c hc]
    rfl
  unfold before
  rw [List.takeWhile_append_of_pos hall, List.dropWhile_append_of_pos hall]

theorem pathPart_append {s : List Char} (h : ∀ c ∈ s, endsPath c = false) (t : List Char) :
    pathPart (s ++ t) = s ++ pathPart t := by
  unfold pathPart
  rw [before_append h]

theorem queryPart_append {s : List Char} (h : ∀ c ∈ s, endsPath c = false) (t : List Char) :
    queryPart (s ++ t) = queryPart t := by
  unfold queryPart
  rw [before_append h]

theorem exists_pathPart_append (s : List Char) : ∃ rest, pathPart s ++ rest = s :=
  ⟨_, List.takeWhile_append_dropWhile⟩

theorem endsPath_of_mem_pathPart {s : List Char} {c : Char} (h : c ∈ pathPart s) :
    endsPath c = false := by
  simpa using List.mem_takeWhile_imp h

/-! URLs that are put together. -/

namespace Url

/-- What a URL that is put together has in its parts. -/
structure Builds (protocol authority target : List Char) (search mark : Option (List Char))
    (url : Url) : Prop where
  scheme : url.scheme = protocol.map Char.toLower
  user : url.user = quote isUserChar (splitAuthority authority).1
  host : hostText (splitAuthority authority).2.1 = .ok url.host
  number : numberOf protocol (splitAuthority authority).2.2 = .ok url.number
  path : url.path = escaped isPathChar
    (if protocol.isEmpty && url.user.isEmpty && url.host.isEmpty && url.number.isNone then target
      else withoutDots target)
  query : url.query = search.map (quote isQueryChar)
  fragment : url.fragment = mark.map (quote isFragmentChar)

variable {protocol authority target : List Char} {search mark : Option (List Char)} {url : Url}

theorem builds_of_build (h : build protocol authority target search mark = .ok url) :
    Builds protocol authority target search mark url := by
  unfold build at h
  generalize hparts : splitAuthority authority = parts at h
  obtain ⟨user, place, text⟩ := parts
  dsimp only [bind, Except.bind] at h
  cases hhost : hostText place with
  | error error =>
    rw [hhost] at h
    cases h
  | ok host =>
    rw [hhost] at h
    dsimp only at h
    cases hnumber : numberOf protocol text with
    | error error =>
      rw [hnumber] at h
      cases h
    | ok number =>
      rw [hnumber] at h
      dsimp only at h
      split at h
      · cases h
      · split at h
        · cases h
        · cases h
          exact ⟨rfl, by rw [hparts], by rw [hparts]; exact hhost, by rw [hparts]; exact hnumber,
            quote_eq_escaped _, rfl, rfl⟩

theorem Builds.path_of_scheme (h : Builds protocol authority target search mark url)
    (hprotocol : protocol ≠ []) : url.path = escaped isPathChar (withoutDots target) := by
  rw [h.path, List.isEmpty_eq_false_iff.mpr hprotocol]
  rfl

theorem Builds.eq_with {path : List Char} {query : Option (List Char)} {other : Url}
    (h : Builds protocol authority target search mark url)
    (h' : Builds protocol authority path query mark other) :
    other = { url with path := other.path, query := other.query } := by
  obtain ⟨scheme, user, host, number, path, query, fragment⟩ := url
  obtain ⟨scheme', user', host', number', path', query', fragment'⟩ := other
  obtain ⟨rfl, rfl, hhost, hnumber, -, -, rfl⟩ := h
  obtain ⟨rfl, rfl, hhost', hnumber', -, -, rfl⟩ := h'
  dsimp only at hhost hnumber hhost' hnumber' ⊢
  rw [hhost] at hhost'
  rw [hnumber] at hnumber'
  cases hhost'
  cases hnumber'
  rfl

/-- A reference that starts with one slash has neither a scheme nor an authority. -/
theorem parse_rooted {c : Char} (hc : c ≠ '/') {rest : List Char}
    (h : parse ('/' :: c :: rest) = .ok url) :
    url.path = escaped isPathChar (pathPart ('/' :: c :: rest)) ∧
      url.query = (queryPart ('/' :: c :: rest)).map (quote isQueryChar) := by
  have hname : ('/' :: c :: rest).takeWhile isSchemeChar = [] :=
    List.takeWhile_cons_of_neg (by decide)
  have hbuild : build [] [] (pathPart ('/' :: c :: rest)) (queryPart ('/' :: c :: rest))
      (fragmentPart ('/' :: c :: rest)) = .ok url := by
    unfold parse at h
    dsimp only at h
    split at h
    · cases h
    · split at h
      · cases h
      · rw [hname] at h
        simp only [List.length_nil, List.drop_zero, List.head?_cons, Option.some.injEq,
          show ('/' = ':') ↔ False by decide, decide_false, Bool.false_and, Bool.false_eq_true,
          if_false] at h
        split at h
        · rename_i heq
          cases heq
          exact absurd rfl hc
        · exact h
  have hbuilds := builds_of_build hbuild
  have hhost : Except.ok [] = Except.ok url.host := hbuilds.host
  have hnumber : Except.ok none = Except.ok url.number := hbuilds.number
  refine ⟨?_, hbuilds.query⟩
  rw [hbuilds.path, hbuilds.user, ← Except.ok.inj hhost, ← Except.ok.inj hnumber]
  rfl

/-- A target is cut at its first question mark. -/
theorem builds_of_withTarget {base : Url} (htarget : '?' ∉ target)
    (h : base.withTarget (target ++ (search.map ('?' :: ·)).getD []) = .ok url) :
    Builds base.scheme base.authority target search base.fragment url := by
  have hchecked (h : (do
      checkPart "path" target
      checkPart "query" (search.getD [])
      build base.scheme base.authority target search base.fragment) = .ok url) :
      Builds base.scheme base.authority target search base.fragment url := by
    dsimp only [bind, Except.bind] at h
    split at h
    · cases h
    · split at h
      · cases h
      · exact builds_of_build h
  unfold withTarget at h
  cases search with
  | none =>
    rw [Option.map_none, Option.getD_none, List.append_nil,
      cut?_eq_none List.mem_cons_self htarget] at h
    exact hchecked h
  | some query =>
    have hcut := cut?_append htarget [] query
    rw [List.singleton_append] at hcut
    rw [Option.map_some, Option.getD_some, hcut] at h
    exact hchecked h

/-- A reference under a base is put behind the path of the base, but for its first slash. -/
theorem builds_of_under {base reference : Url} {c : Char} {path : List Char} (hc : c ≠ '/')
    (hbase : '?' ∉ base.target) (hpath : reference.path = '/' :: c :: path)
    (hquestion : '?' ∉ reference.path) (h : base.under reference = .ok url) :
    Builds base.scheme base.authority (base.target ++ c :: path) reference.query base.fragment
      url := by
  have htarget : reference.target.dropWhile (· = '/') =
      c :: path ++ (reference.query.map ('?' :: ·)).getD [] := by
    unfold target
    rw [hpath]
    cases reference.query <;> simp [hc]
  unfold under at h
  rw [htarget, ← List.append_assoc] at h
  apply builds_of_withTarget _ h
  rw [List.mem_append, not_or]
  refine ⟨hbase, ?_⟩
  rw [hpath] at hquestion
  intro hmem
  exact hquestion (List.mem_cons_of_mem '/' hmem)

/-! Items. -/

/-- The item of a collection that has an identifier: it is one segment further down. -/
structure IsItem (collection item : Url) (id : List Char) : Prop where
  nonempty : quote isPathChar id ≠ []
  slash : '/' ∉ quote isPathChar id
  url : item = { collection with path := collection.path ++ '/' :: quote isPathChar id }

theorem IsItem.length_lt {collection item : Url} {id : List Char} (h : collection.IsItem item id) :
    collection.path.length + 1 < item.path.length := by
  have hpositive := List.length_pos_iff.mpr h.nonempty
  rw [h.url, List.length_append, List.length_cons]
  omega

end Url

/-- A text that can stand as a segment of a path. -/
structure IsSegment (id : List Char) : Prop where
  nonempty : id ≠ []
  slash : '/' ∉ id
  question : '?' ∉ id
  mark : '#' ∉ id
  dot : id ≠ ['.']
  dots : id ≠ ['.', '.']

theorem IsSegment.pathPart {id : List Char} (h : IsSegment id) :
    Net.pathPart id = id ∧ queryPart id = none := by
  have hends : ∀ c ∈ id, endsPath c = false := by
    intro c hc
    apply endsPath_eq_false_iff.mpr
    constructor
    · rintro rfl
      exact h.question hc
    · rintro rfl
      exact h.mark hc
  have hpath := pathPart_append hends []
  have hquery := queryPart_append hends []
  rw [List.append_nil] at hpath hquery
  exact ⟨hpath.trans (List.append_nil id), hquery⟩

theorem escaped_eq_dots {s : List Char} (h : escaped isPathChar s = ['.'] ∨
    escaped isPathChar s = ['.', '.']) : s = ['.'] ∨ s = ['.', '.'] := by
  have hplain : '%' ∉ escaped isPathChar s := by
    rcases h with h | h <;> rw [h] <;> decide
  rwa [escaped_eq_of_not_mem hplain] at h

namespace Url

variable {protocol authority root : List Char} {mark : Option (List Char)} {collection item : Url}
  {id : List Char}

theorem isItem_of_isSegment (hprotocol : protocol ≠ []) (hroot : resolved root ≠ [])
    (hcollection : Builds protocol authority root none mark collection)
    (hitem : Builds protocol authority (root ++ '/' :: escaped isPathChar (pathPart id))
      ((queryPart id).map (quote isQueryChar)) mark item)
    (h : IsSegment id) : collection.IsItem item id := by
  obtain ⟨hpathPart, hqueryPart⟩ := h.pathPart
  rw [hpathPart, hqueryPart] at hitem
  have hslash : '/' ∉ escaped isPathChar id := mt slash_mem_escaped_iff.mp h.slash
  have hdots : ¬ (escaped isPathChar id = ['.'] ∨ escaped isPathChar id = ['.', '.']) := by
    intro hdots
    rcases escaped_eq_dots hdots with hdot | hdots
    · exact h.dot hdot
    · exact h.dots hdots
  rw [not_or] at hdots
  have hpath : item.path = collection.path ++ '/' :: escaped isPathChar id := by
    rw [hitem.path_of_scheme hprotocol, hcollection.path_of_scheme hprotocol,
      withoutDots_segment hroot hslash hdots.1 hdots.2, escaped_append, escaped_cons,
      escaped_escaped]
    rfl
  have hquery : item.query = collection.query := hitem.query.trans hcollection.query.symm
  refine ⟨?_, ?_, ?_⟩
  · rw [quote_eq_escaped]
    exact mt escaped_eq_nil_iff.mp h.nonempty
  · rw [quote_eq_escaped]
    exact hslash
  · rw [hcollection.eq_with hitem, hpath, hquery, quote_eq_escaped]

/-- Where a reference leads to an item, its path has not been cut, and no dots have been resolved:
both make the path too short. -/
theorem isSegment_of_isItem (hprotocol : protocol ≠ []) (hroot : resolved root ≠ [])
    (hcollection : Builds protocol authority root none mark collection)
    (hitem : Builds protocol authority (root ++ '/' :: escaped isPathChar (pathPart id))
      ((queryPart id).map (quote isQueryChar)) mark item)
    (h : collection.IsItem item id) : IsSegment id := by
  obtain ⟨hnonempty, hslash, hurl⟩ := h
  rw [quote_eq_escaped] at hnonempty hslash
  -- All conditions but these two come from the path: it is that of the collection with one more
  -- segment, so nothing of the identifier was cut off or resolved.
  have hpath : escaped isPathChar (withoutDots (root ++ '/' :: escaped isPathChar (pathPart id))) =
      escaped isPathChar (withoutDots root) ++ '/' :: escaped isPathChar id := by
    rw [← hitem.path_of_scheme hprotocol, ← hcollection.path_of_scheme hprotocol,
      ← quote_eq_escaped id, hurl]
  obtain ⟨rest, hrest⟩ := exists_pathPart_append id
  have hid : '/' ∉ id := mt slash_mem_escaped_iff.mpr hslash
  have hpart : '/' ∉ escaped isPathChar (pathPart id) := by
    intro hmem
    rw [slash_mem_escaped_iff] at hmem
    apply hid
    rw [← hrest]
    exact List.mem_append_left rest hmem
  -- A segment of dots would make the path shorter than that of the collection and one more segment.
  have hdots : ¬ (escaped isPathChar (pathPart id) = ['.'] ∨
      escaped isPathChar (pathPart id) = ['.', '.']) := by
    intro hdots
    obtain ⟨more, hmore⟩ := withoutDots_dots root hdots
    have hlength := congrArg List.length hpath
    rw [← hmore, escaped_append] at hlength
    simp only [List.length_append, List.length_cons] at hlength
    omega
  have hwhole : pathPart id = id := by
    rw [not_or] at hdots
    rw [withoutDots_segment hroot hpart hdots.1 hdots.2, escaped_append, escaped_cons,
      escaped_escaped] at hpath
    have hsame : escaped isPathChar (pathPart id) = escaped isPathChar id :=
      (List.cons.inj (List.append_cancel_left hpath)).2
    have hnil : escaped isPathChar rest = [] := by
      apply List.self_eq_append_right.mp
      rw [← escaped_append, hrest, hsame]
    rw [escaped_eq_nil_iff.mp hnil, List.append_nil] at hrest
    exact hrest
  have hends : ∀ c ∈ id, c ≠ '?' ∧ c ≠ '#' := by
    intro c hc
    rw [← hwhole] at hc
    exact endsPath_eq_false_iff.mp (endsPath_of_mem_pathPart hc)
  rw [hwhole] at hdots
  refine ⟨mt escaped_eq_nil_iff.mpr hnonempty, hid, fun hc => (hends _ hc).1 rfl,
    fun hc => (hends _ hc).2 rfl, ?_, ?_⟩
  · rintro rfl
    exact hdots (Or.inl (by decide))
  · rintro rfl
    exact hdots (Or.inr (by decide))

end Url

end WorkWatch.Net
