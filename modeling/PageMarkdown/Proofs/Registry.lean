import Mathlib.Data.List.Nodup
import PageMarkdown.Markdown.Image
import PageMarkdown.Proofs.Text.Blank

/-!
# What a registry of images holds

Whatever images have been registered, there is one record for each URL among
them, in the order in which the URLs first came. Its alternative text and its
title are the first ones that were given with that URL, each on its own. The
images of a document are registered in document order.
-/

namespace PageMarkdown.Markdown

open Text Html

/-! ## First values -/

/-- The first text that is not empty, if there is one. -/
def firstNonempty (ts : List Text) : Text := (ts.find? fun t => !t.isEmpty).getD []

/-- One more text counts when all before it are empty. -/
theorem firstNonempty_concat (ts : List Text) (t : Text) :
    firstNonempty (ts ++ [t]) = firstFilled (firstNonempty ts) t := by
  rw [firstNonempty, List.find?_append, firstNonempty]
  cases hfound : ts.find? fun t => !t.isEmpty with
  | some u =>
    have hu : u.isEmpty = false := by simpa using List.find?_some hfound
    simp [firstFilled, hu]
  | none => cases t <;> simp [firstFilled]

/-- Another value counts when it is new. -/
theorem eraseDups_concat (us : List Text) (u : Text) :
    (us ++ [u]).eraseDups = if u ∈ us then us.eraseDups else us.eraseDups ++ [u] := by
  rw [List.eraseDups_append]
  split <;> rename_i h <;> simp [List.removeAll, h, List.eraseDups_cons]

theorem nodup_eraseDups (us : List Text) : us.eraseDups.Nodup := by
  induction us using List.reverseRecOn with
  | nil => exact List.nodup_nil
  | append_singleton us u ih =>
    rw [eraseDups_concat]
    split
    · exact ih
    · rename_i hnew
      exact List.nodup_append.mpr ⟨ih, List.nodup_singleton u, by
        rintro v hv w hw rfl
        exact hnew (List.mem_singleton.mp hw ▸ List.mem_eraseDups.mp hv)⟩

/-! ## Registering images one after another -/

namespace Registry

/-- What is left when images are registered one after another, from nothing. -/
def ofCalls (calls : List ImageRecord) : Registry :=
  calls.foldl (fun images call => images.register call.url call.alt call.title) []

theorem ofCalls_concat (calls : List ImageRecord) (call : ImageRecord) :
    ofCalls (calls ++ [call]) = (ofCalls calls).register call.url call.alt call.title := by
  rw [ofCalls, List.foldl_append]
  rfl

/-- The trimmed URLs of calls that are not empty, each at its first place. -/
def urlsOf (calls : List ImageRecord) : List Text :=
  ((calls.map fun call => trim call.url).filter fun url => !url.isEmpty).eraseDups

/-- The record that calls give a URL: the first alternative text and the first title that come with
it and are not empty on one line. -/
def recordOf (calls : List ImageRecord) (url : Text) : ImageRecord :=
  let own := calls.filter fun call => trim call.url = url
  ⟨url, firstNonempty (own.map fun call => flatten call.alt),
    firstNonempty (own.map fun call => flatten call.title)⟩

/-- A call adds its URL unless it is blank or known. -/
theorem urlsOf_concat (calls : List ImageRecord) (call : ImageRecord) :
    urlsOf (calls ++ [call]) =
      if trim call.url = [] ∨ trim call.url ∈ urlsOf calls then urlsOf calls
      else urlsOf calls ++ [trim call.url] := by
  simp only [urlsOf, List.map_append, List.filter_append, List.map_singleton]
  by_cases hblank : trim call.url = []
  · simp [hblank]
  · have hkept : [trim call.url].filter (fun url => !url.isEmpty) = [trim call.url] := by
      simp [hblank]
    rw [hkept, eraseDups_concat]
    simp only [hblank, false_or, List.mem_eraseDups]

/-- A call fills the record of its URL and no other one. -/
theorem recordOf_concat (calls : List ImageRecord) (call : ImageRecord) (url : Text) :
    recordOf (calls ++ [call]) url =
      if trim call.url = url then (recordOf calls url).fill call.alt call.title
      else recordOf calls url := by
  simp only [recordOf, List.filter_append]
  split
  · rename_i hurl
    simp [hurl, firstNonempty_concat, ImageRecord.fill]
  · rename_i hother
    simp [hother]

/-- A URL that no call has has an empty record. -/
theorem recordOf_of_not_mem {calls : List ImageRecord} {url : Text} (hne : url ≠ [])
    (h : url ∉ urlsOf calls) : recordOf calls url = ⟨url, [], []⟩ := by
  have hnone : calls.filter (fun call => trim call.url = url) = [] := by
    refine List.filter_eq_nil_iff.mpr fun call hcall hurl => h ?_
    rw [urlsOf, List.mem_eraseDups, List.mem_filter]
    exact ⟨List.mem_map.mpr ⟨call, hcall, of_decide_eq_true hurl⟩, by simpa using hne⟩
  rw [recordOf, hnone]
  rfl

/-- Where every URL has one record, the record of a known URL is filled in its place. -/
theorem upsert_of_mem {urls : List Text} {record : Text → ImageRecord}
    (hrecord : ∀ u, (record u).url = u) (hnodup : urls.Nodup) {url : Text} (h : url ∈ urls)
    (alt title : Text) :
    upsert url alt title (urls.map record) =
      urls.map fun u => if url = u then (record u).fill alt title else record u := by
  induction urls with
  | nil => cases h
  | cons u urls ih =>
    obtain ⟨hu, hnodup⟩ := List.nodup_cons.mp hnodup
    rw [List.map_cons, upsert, hrecord, List.map_cons]
    by_cases heq : u = url
    · subst heq
      rw [if_pos rfl, if_pos rfl]
      refine congrArg _ (List.map_congr_left fun v hv => ?_)
      rw [if_neg fun huv : u = v => hu (huv ▸ hv)]
    · rw [if_neg heq, if_neg (Ne.symm heq)]
      exact congrArg _ (ih hnodup ((List.mem_cons.mp h).resolve_left (Ne.symm heq)))

/-- A new URL is added at the end. -/
theorem upsert_of_not_mem {urls : List Text} {record : Text → ImageRecord}
    (hrecord : ∀ u, (record u).url = u) {url : Text} (h : url ∉ urls) (alt title : Text) :
    upsert url alt title (urls.map record) =
      urls.map record ++ [ImageRecord.fill alt title ⟨url, [], []⟩] := by
  induction urls with
  | nil => rfl
  | cons u urls ih =>
    obtain ⟨hu, hurls⟩ := not_or.mp (mt List.mem_cons.mpr h)
    rw [List.map_cons, upsert, hrecord, if_neg (Ne.symm hu), ih hurls, List.cons_append]

/-- One more call changes the records in the way in which it changes the registry. -/
theorem register_records (calls : List ImageRecord) (call : ImageRecord) :
    register call.url call.alt call.title ((urlsOf calls).map (recordOf calls)) =
      (urlsOf (calls ++ [call])).map (recordOf (calls ++ [call])) := by
  have hrecord : ∀ u, (recordOf calls u).url = u := fun _ => rfl
  have hfilled : recordOf (calls ++ [call]) = fun u =>
      if trim call.url = u then (recordOf calls u).fill call.alt call.title
      else recordOf calls u := funext fun u => recordOf_concat calls call u
  rw [register, urlsOf_concat, hfilled]
  by_cases hblank : trim call.url = []
  · have hne : ∀ u ∈ urlsOf calls, trim call.url ≠ u := by
      rintro u hu rfl
      rw [urlsOf, List.mem_eraseDups, List.mem_filter, hblank] at hu
      simp at hu
    rw [if_pos (by simp [hblank]), if_pos (.inl hblank)]
    exact List.map_congr_left fun u hu => (if_neg (hne u hu)).symm
  rw [if_neg (by simp [hblank])]
  by_cases hknown : trim call.url ∈ urlsOf calls
  · rw [if_pos (.inr hknown)]
    exact upsert_of_mem hrecord (nodup_eraseDups _) hknown _ _
  · rw [if_neg (by simp [hblank, hknown]), upsert_of_not_mem hrecord hknown, List.map_append,
      List.map_singleton, if_pos rfl, recordOf_of_not_mem hblank hknown]
    refine congrArg (· ++ _) (List.map_congr_left fun u hu => ?_)
    rw [if_neg fun heq : trim call.url = u => hknown (heq ▸ hu)]

/-- After any calls there is one record for each URL, as the calls give it. -/
theorem ofCalls_eq (calls : List ImageRecord) :
    ofCalls calls = (urlsOf calls).map (recordOf calls) := by
  induction calls using List.reverseRecOn with
  | nil => rfl
  | append_singleton calls call ih => rw [ofCalls_concat, ih, register_records]

/-! ## The images of a document -/

/-- The image elements with a source that is not blank, in document order, as calls. -/
def callsIn (nodes : List Node) : List ImageRecord :=
  (Node.preorderAll nodes).filterMap fun
    | .element name attributes _ =>
      if name = "img".toList ∧ isAllBlank (attributes.text "src") = false then
        some ⟨attributes.text "src", attributes.text "alt", attributes.text "title"⟩
      else none
    | .text _ _ => none

/-- The images in a document are its calls, with their sources trimmed. -/
theorem imagesIn_eq (nodes : List Node) :
    imagesIn nodes = (callsIn nodes).map fun call => { call with url := trim call.url } := by
  rw [imagesIn, Node.named, callsIn, List.filterMap_filter, List.map_filterMap]
  refine List.filterMap_congr fun node _ => ?_
  cases node with
  | text kind content => rfl
  | element name attributes kids =>
    by_cases hname : name = "img".toList
    · by_cases hblank : isAllBlank (attributes.text "src") = true
      · have htrim := (trim_eq_nil_iff _).mpr hblank
        simp [Node.isNamed, hname, hblank, htrim]
      · have htrim := mt (trim_eq_nil_iff _).mp hblank
        simp [Node.isNamed, hname, hblank, htrim]
    · simp [Node.isNamed] at hname ⊢
      simp [hname]

/-- Collecting the images of a document goes on with its calls. -/
theorem collect_ofCalls (calls : List ImageRecord) (nodes : List Node) :
    (ofCalls calls).collect nodes = ofCalls (calls ++ callsIn nodes) := by
  rw [collect, imagesIn_eq, List.foldl_map, ofCalls, ofCalls, List.foldl_append]
  simp only [register, trim_trim]

/-- Whatever is registered, the records are one for each trimmed URL that is not empty, in the order
of first calls, each with the first alternative text and the first title that are not empty among
the calls with its URL. Collecting a document registers its images with a source after what was
registered before. -/
theorem records_of_calls (calls : List ImageRecord) (featured : Option ImageRecord)
    (nodes : List Node) :
    ofCalls calls = (urlsOf calls).map (recordOf calls) ∧
      (ofCalls featured.toList).collect nodes = ofCalls (featured.toList ++ callsIn nodes) :=
  ⟨ofCalls_eq calls, collect_ofCalls featured.toList nodes⟩

/-- Two spellings of one URL fill one record, each with what the other one lacks. -/
example :
    ofCalls [⟨" /a".toList, [], "t".toList⟩, ⟨" ".toList, "x".toList, []⟩, ⟨"/b".toList, [], []⟩,
      ⟨"/a\n".toList, "b  c".toList, "u".toList⟩] =
    [⟨"/a".toList, "b c".toList, "t".toList⟩, ⟨"/b".toList, [], []⟩] := by decide

end Registry

end PageMarkdown.Markdown
