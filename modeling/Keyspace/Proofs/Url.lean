/-
# URLs of a server

Behind the scheme and the server of a URL stands its path, and nothing in front of the
path depends on it. A path without steps and without anything to escape is read as it
stands, and that goes for slashes which follow each other, too: the segment between them
is empty, but it is a segment.
-/

import Mathlib
import Keyspace.Proofs.Text
import Keyspace.Url

namespace Keyspace.Url

/-! ## Paths -/

/-- The path along segments. -/
def along (segments : List (List Char)) : List Char := segments.flatMap ('/' :: ·)

/-- The character is written in a path as it is, and does not end a segment. -/
structure IsPlain (c : Char) : Prop where
  written : 0x20 ≤ c.toNat ∧ c.toNat < 0x7f ∧ c ∉ pathSpecial.toList
  not_slash : ¬ isSlash c

/-- The segment stands for itself: it is written as it is, and is no step. -/
structure IsPlainSegment (segment : List Char) : Prop where
  plain : ∀ c ∈ segment, IsPlain c
  down : Step.ofSegment segment = .down segment

variable {segments : List (List Char)} {text : List Char}

theorem isPlain_of_isAlpha {c : Char} (h : c.isAlpha) : IsPlain c := by
  have hspecial : ∀ d ∈ pathSpecial.toList, ¬ d.isAlpha := by simp [pathSpecial]
  have hslash : ∀ d ∈ ['/', '\\'], ¬ d.isAlpha := by simp
  have hrange : 65 ≤ c.toNat ∧ c.toNat ≤ 90 ∨ 97 ≤ c.toNat ∧ c.toNat ≤ 122 := by
    simpa [Char.isAlpha, Char.isUpper, Char.isLower, UInt32.le_iff_toNat_le] using h
  refine ⟨⟨by omega, by omega, fun hc => hspecial c hc h⟩, fun hc => hslash c ?_ h⟩
  simpa [isSlash] using hc

/-- A segment of letters stands for itself, and so does the empty one. -/
theorem isPlainSegment_of_letters {segment : List Char} (h : ∀ c ∈ segment, c.isAlpha) :
    IsPlainSegment segment := by
  refine ⟨fun c hc => isPlain_of_isAlpha (h c hc), ?_⟩
  cases segment with
  | nil => rfl
  | cons c rest =>
      have hletter := h c List.mem_cons_self
      have hpoint : c ≠ '.' := by
        rintro rfl
        revert hletter
        decide
      have hpercent : c ≠ '%' := by
        rintro rfl
        revert hletter
        decide
      have hpoints : points? (c :: rest) = none := by simp [points?, hpoint, hpercent]
      rw [Step.ofSegment, hpoints]

theorem along_eq_intercalate (hne : segments ≠ []) :
    along segments = '/' :: ['/'].intercalate segments := by
  induction segments with
  | nil => exact absurd rfl hne
  | cons segment rest ih =>
      cases rest with
      | nil => simp [along]
      | cons next rest =>
          have hrest := ih (List.cons_ne_nil next rest)
          rw [along] at hrest ⊢
          rw [List.flatMap_cons, hrest, List.intercalate_cons_cons]
          simp

theorem mem_along {c : Char} (h : c ∈ along segments) :
    c = '/' ∨ ∃ segment ∈ segments, c ∈ segment := by
  obtain ⟨segment, hsegment, hc⟩ := List.mem_flatMap.mp h
  exact (List.mem_cons.mp hc).imp_right fun hc => ⟨segment, hsegment, hc⟩

/-- A plain text has nothing in it to escape. -/
theorem escape_of_plain (h : ∀ c ∈ text, IsPlain c) : escape pathSpecial text = text := by
  induction text with
  | nil => rfl
  | cons c text ih =>
      obtain ⟨hc, htext⟩ := List.forall_mem_cons.mp h
      rw [escape, List.flatMap_cons, if_pos hc.written]
      exact congrArg (c :: ·) (ih htext)

/-- Where there are no steps, the segments lead to themselves. -/
theorem resolve_of_down (hne : segments ≠ [])
    (h : ∀ segment ∈ segments, Step.ofSegment segment = .down segment) :
    resolve segments = segments := by
  have hsteps : segments.map Step.ofSegment = segments.map .down := List.map_congr_left h
  have hreached : (segments.map Step.down).foldl Step.take [] = segments.reverse := by
    rw [List.foldl_map]
    exact List.foldl_flip_cons_eq_append'.trans (List.append_nil _)
  have hlast : (segments.map Step.down).getLast? = some (.down (segments.getLast hne)) := by
    rw [List.getLast?_map, List.getLast?_eq_some_getLast hne]
    rfl
  rw [resolve, hsteps, hreached, hlast]
  exact List.reverse_reverse segments

/-- The path leads along segments that stand for themselves. -/
def IsPlainPath (path : List Char) : Prop :=
  ∃ segments, segments ≠ [] ∧ (∀ segment ∈ segments, IsPlainSegment segment) ∧
    path = along segments

theorem IsPlainPath.exists_eq_cons (h : IsPlainPath text) : ∃ rest, text = '/' :: rest := by
  obtain ⟨segments, hne, -, rfl⟩ := h
  exact ⟨_, along_eq_intercalate hne⟩

/-- Such a path is read as it stands. -/
theorem IsPlainPath.readPath_eq (h : IsPlainPath text) : readPath text = text := by
  obtain ⟨segments, hne, hsegments, rfl⟩ := h
  have hslashes : (along segments).map (fun c => if isSlash c then '/' else c) =
      along segments := by
    refine (List.map_congr_left fun c hc => ?_).trans (List.map_id _)
    rcases mem_along hc with rfl | ⟨segment, hsegment, hc⟩
    · rfl
    · exact if_neg ((hsegments segment hsegment).plain c hc).not_slash
  have hsplit : Text.splitAll '/' (['/'].intercalate segments) = segments := by
    apply Text.splitAll_eq_iff.mpr
    refine ⟨hne, rfl, fun segment hsegment hslash => ?_⟩
    exact ((hsegments segment hsegment).plain '/' hslash).not_slash rfl
  have hescape : segments.map (escape pathSpecial) = segments := by
    refine (List.map_congr_left fun segment hsegment => ?_).trans (List.map_id _)
    exact escape_of_plain (hsegments segment hsegment).plain
  have hresolve := resolve_of_down hne fun segment hsegment => (hsegments segment hsegment).down
  rw [readPath]
  simp only [hslashes]
  rw [along_eq_intercalate hne]
  simp only [List.head?_cons, if_true, List.drop_succ_cons, List.drop_zero]
  rw [hsplit, hescape, hresolve, ← along_eq_intercalate hne]
  rfl

/-! ## Servers -/

/-- What is left out of a URL, and what ends its path. -/
def notInPath : List Char := ['\t', '\n', '\r', '?', '#']

theorem not_mem_notInPath {c : Char} :
    c ∉ notInPath ↔ (c ≠ '\t' ∧ c ≠ '\n' ∧ c ≠ '\r') ∧ c ≠ '?' ∧ c ≠ '#' := by
  simp [notInPath, and_assoc]

/-- The text stands for a server: nothing in it begins a path, a query or a fragment, and nothing is
left out of it. -/
structure IsServerText (server : List Char) : Prop where
  ne_nil : server ≠ []
  not_slash : ∀ c ∈ server, ¬ isSlash c
  kept : ∀ c ∈ server, c ∉ notInPath

/-- The text stands for the path behind a server, which may be empty. -/
structure IsPathText (path : List Char) : Prop where
  slash : ∀ c ∈ path.head?, isSlash c
  kept : ∀ c ∈ path, c ∉ notInPath

theorem isPathText_nil : IsPathText [] := ⟨nofun, nofun⟩

theorem IsPlainPath.isPathText (h : IsPlainPath text) : IsPathText text := by
  have hplain : ∀ c, IsPlain c → c ∉ notInPath := by
    rintro c ⟨hwritten, -⟩ hc
    fin_cases hc <;> revert hwritten <;> decide
  constructor
  · obtain ⟨rest, rfl⟩ := h.exists_eq_cons
    rintro c ⟨⟩
    rfl
  · obtain ⟨segments, -, hsegments, rfl⟩ := h
    intro c hc
    rcases mem_along hc with rfl | ⟨segment, hsegment, hc⟩
    · decide
    · exact hplain c ((hsegments segment hsegment).plain c hc)

theorem cutAt_of_not_mem {mark : Char} (h : mark ∉ text) : cutAt mark text = (text, none) := by
  have hnone : Text.splitOnce mark text = none := by
    apply Option.eq_none_iff_forall_not_mem.mpr
    rintro ⟨before, after⟩ hsplit
    obtain ⟨rfl, -⟩ := Text.splitOnce_eq_some.mp hsplit
    exact h (List.mem_append_right before List.mem_cons_self)
  rw [cutAt, hnone]

section Servers

variable {server path : List Char}

/-- The URL of the path at the server. -/
def atServer? (server path : List Char) : Option Url := do
  let hostText := (server.reverse.takeWhile (· ≠ '@')).reverse
  let credentials := server.take (server.length - hostText.length - 1)
  let host ← Host.read? (splitPort false hostText).1
  let port ← readPort? false (splitPort false hostText).2
  return ⟨false, .read credentials, host, port, String.ofList (readPath path), none, none⟩

/-- Nothing in front of the path depends on it. -/
theorem atServer?_eq_map (server path : List Char) :
    atServer? server path = (atServer? server []).map fun url =>
      { url with path := String.ofList (readPath path) } := by
  simp only [atServer?, Option.bind_eq_bind]
  cases Host.read? _ with
  | none => rfl
  | some host =>
      simp only [Option.bind_some]
      cases readPort? false _ <;> rfl

/-- Nothing is left out of the text of a server and a path. -/
theorem filter_text (hserver : IsServerText server) (hpath : IsPathText path) :
    ("http://".toList ++ (server ++ path)).filter (fun c => c ≠ '\t' ∧ c ≠ '\n' ∧ c ≠ '\r') =
      "http://".toList ++ (server ++ path) := by
  have hscheme : ∀ c ∈ "http://".toList, c ∉ notInPath := by simp [notInPath]
  have hkept : ∀ c ∈ "http://".toList ++ (server ++ path), c ∉ notInPath := by
    simp only [List.forall_mem_append]
    exact ⟨hscheme, hserver.kept, hpath.kept⟩
  apply List.filter_eq_self.mpr
  intro c hc
  exact decide_eq_true (not_mem_notInPath.mp (hkept c hc)).1

/-- Slashes in front of a server are passed over, and none of its own characters. -/
theorem dropWhile_isSlash_text (hserver : IsServerText server) :
    ('/' :: '/' :: (server ++ path)).dropWhile isSlash = server ++ path := by
  have hslash : isSlash '/' := rfl
  obtain ⟨c, rest, rfl⟩ := List.exists_cons_of_ne_nil hserver.ne_nil
  rw [List.dropWhile_cons_of_pos hslash, List.dropWhile_cons_of_pos hslash, List.cons_append,
    List.dropWhile_cons_of_neg (hserver.not_slash c List.mem_cons_self)]

/-- The server ends where the path begins. -/
theorem takeWhile_text (hserver : IsServerText server) (hpath : IsPathText path) :
    ((server ++ path).takeWhile fun c => !isSlash c && c ≠ '?' && c ≠ '#') = server := by
  have hends : (path.takeWhile fun c => !isSlash c && c ≠ '?' && c ≠ '#') = [] := by
    cases path with
    | nil => rfl
    | cons c path => simp [hpath.slash c rfl]
  rw [List.takeWhile_append_of_pos, hends, List.append_nil]
  intro c hc
  obtain ⟨-, hquestion, hhash⟩ := not_mem_notInPath.mp (hserver.kept c hc)
  simp [hserver.not_slash c hc, hquestion, hhash]

/-- The text of a server and a path is read as the URL of the path at the server. -/
theorem ofText?_eq_atServer? {server path : String} (hserver : IsServerText server.toList)
    (hpath : IsPathText path.toList) :
    ofText? ("http://" ++ server ++ path) = atServer? server.toList path.toList := by
  have hscheme : ∀ rest : List Char,
      readScheme? ("http://".toList ++ rest) = some (false, '/' :: '/' :: rest) := fun _ => rfl
  have hquestion : '?' ∉ path.toList := fun h => (not_mem_notInPath.mp (hpath.kept _ h)).2.1 rfl
  have hhash : '#' ∉ path.toList := fun h => (not_mem_notInPath.mp (hpath.kept _ h)).2.2 rfl
  rw [ofText?, String.toList_append, String.toList_append, List.append_assoc]
  simp only [filter_text hserver hpath, hscheme, Option.bind_eq_bind, Option.bind_some,
    dropWhile_isSlash_text hserver, takeWhile_text hserver hpath, List.drop_left,
    cutAt_of_not_mem hquestion, cutAt_of_not_mem hhash]
  rfl

/-- Without a path the URL is that of the root. -/
theorem ofText?_server {server : String} (hserver : IsServerText server.toList) :
    ofText? ("http://" ++ server) = atServer? server.toList [] := by
  have hread : ofText? ("http://" ++ server ++ "") = atServer? server.toList [] :=
    ofText?_eq_atServer? hserver isPathText_nil
  rwa [String.append_empty] at hread

/-- The URLs of plain paths at a server differ in nothing but the path. -/
theorem ofText?_append {server path : String} (hserver : IsServerText server.toList)
    (hpath : IsPlainPath path.toList) :
    ofText? ("http://" ++ server ++ path) =
      (ofText? ("http://" ++ server)).map fun url => { url with path } := by
  rw [ofText?_eq_atServer? hserver hpath.isPathText, ofText?_server hserver, atServer?_eq_map,
    hpath.readPath_eq, String.ofList_toList]

/-- At such a URL the server is asked for the path. -/
theorem target_of_ofText? {server : String} (hserver : IsServerText server.toList) {url : Url}
    (h : ofText? ("http://" ++ server) = some url) (path : String) :
    ({ url with path } : Url).target = path := by
  rw [ofText?_server hserver, atServer?] at h
  obtain ⟨host, -, hhost⟩ := Option.bind_eq_some_iff.mp h
  obtain ⟨port, -, hport⟩ := Option.bind_eq_some_iff.mp hhost
  cases hport
  rfl

end Servers

end Keyspace.Url
