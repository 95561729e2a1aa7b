/-
  VirtioWddm.Build.HeaderRewritten

  The next build rewrites the header exactly when its inputs have changed.

  The template is one of the inputs.  Two headers from one template have their versions
  at the same places, and versions are of one length, so that the headers tell the
  versions apart, and these tell the inputs apart.
-/

import VirtioWddm.Build.HeaderPublished

namespace VirtioWddm

open Lib

section Headers

variable {sha256 : List Byte → List Byte} {c c' : VersionCall} {data data' : List Byte}

theorem VersionCall.SameInputs.header (h : c.SameInputs c') :
    c.header sha256 = c'.header sha256 := by
  have hfile := files_congr h.selected (.inl rfl : Selects versionTemplate)
  have hversion : c.version sha256 = c'.version sha256 := by
    have hstream := h.stream
    rw [VersionCall.stream, VersionCall.stream] at hstream
    rw [VersionCall.version, VersionCall.version, VirtioWddm.version, VirtioWddm.version, hstream]
  rw [VersionCall.header, VersionCall.header, SourceTree.readTemplate, SourceTree.readTemplate,
    hfile, hversion]

theorem length_hexdigest (digest : List Byte) :
    (hexdigest digest).toList.length = 2 * digest.length := by
  rw [hexdigest, String.toList_ofList]
  induction digest with
  | nil => rfl
  | cons b digest ih =>
      rw [List.flatMap_cons, List.length_append, ih, List.length_cons, List.length_cons,
        List.length_cons, List.length_nil]
      omega

/-- Digests of one length make versions of one length. -/
theorem length_version (hlen : ∀ stream, (sha256 stream).length = 32) {version : String}
    (h : c.version sha256 = .ok version) : version.toList.length = 68 := by
  obtain ⟨stream, -, h⟩ := bind_eq_ok h
  cases h
  have hlist : ("umd-" ++ hexdigest (sha256 stream)).toList =
      "umd-".toList ++ (hexdigest (sha256 stream)).toList := String.toList_append
  rw [hlist, List.length_append, length_hexdigest, hlen]
  rfl

/-- Two calls that find one template make one header when their inputs are the same. -/
theorem header_eq_iff (hlen : ∀ stream, (sha256 stream).length = 32)
    (hdata : c.header sha256 = .ok data) (hdata' : c'.header sha256 = .ok data')
    (htemplate : c'.root.readTemplate = c.root.readTemplate)
    (hnul : c.NulFree) (hnul' : c'.NulFree)
    (hsha : ∀ stream stream', c.stream = .ok stream → c'.stream = .ok stream' →
      sha256 stream = sha256 stream' → stream = stream') :
    data = data' ↔ c.SameInputs c' := by
  constructor
  · rintro rfl
    obtain ⟨template, version, hread, htag, hversion, rfl⟩ := header_eq_ok hdata
    obtain ⟨template', version', hread', -, hversion', hbytes⟩ := header_eq_ok hdata'
    obtain rfl : template = template' := by
      rw [htemplate, hread] at hread'
      exact Except.ok.inj hread'
    have hsize : version.toList.length = version'.toList.length := by
      rw [length_version hlen hversion, length_version hlen hversion']
    have hlist := replaceAll_inj (by decide) hsize htag (utf8Bytes_injective hbytes)
    have hsame : version = version' := String.toList_inj.mp hlist
    obtain ⟨stream, hstream, -⟩ := bind_eq_ok hversion
    obtain ⟨stream', hstream', -⟩ := bind_eq_ok hversion'
    have hdigest : sha256 stream = sha256 stream' := by
      refine (version_eq_iff hstream hstream').mp ?_
      rw [hversion, hversion', hsame]
    obtain rfl := hsha stream stream' hstream hstream' hdigest
    exact sameInputs_of_stream hnul hnul' hstream hstream'
  · intro h
    have hheader : c.header sha256 = c'.header sha256 := h.header
    rw [hdata, hdata'] at hheader
    exact Except.ok.inj hheader

/-- The output is the header of one build; in the next one, of any number of processes,
    somebody rewrites it exactly when the inputs are not the same any more, and otherwise
    nothing at all is touched. -/
theorem generate_rewrites_iff {ι : Type} [DecidableEq ι]
    (hlen : ∀ stream, (sha256 stream).length = 32) {init : OutputDir}
    (hdata : c.header sha256 = .ok data) (hinit : init.output = some data)
    (htemplate : c'.root.readTemplate = c.root.readTemplate)
    (hnul : c.NulFree) (hnul' : c'.NulFree)
    (hsha : ∀ stream stream', c.stream = .ok stream → c'.stream = .ok stream' →
      sha256 stream = sha256 stream' → stream = stream')
    {w : Threads ι OutputDir GenerateProcess}
    (h : Reach (GenerateInitial (fun _ => c') init) (Threads.Step (GenerateStep sha256)) w) :
    (c.SameInputs c' → w.shared = init) ∧
      ∀ i b, (w.own i).point = .returned b →
        (∃ data', c'.header sha256 = .ok data' ∧ w.shared.output = some data') ∧
          ((∃ j, (w.own j).point = .returned true) ↔ ¬c.SameInputs c') := by
  have hidle : c.SameInputs c' →
      w.shared = init ∧ ∀ i, (w.own i).point ≠ .returned true := fun hsame =>
    generate_idle hinit (fun _ => hsame.header.symm.trans hdata) h
  obtain ⟨-, hfrom, hcalls⟩ := generate_reach h
  refine ⟨fun hsame => (hidle hsame).1, fun i b hi => ?_⟩
  have hout : ∃ data', c'.header sha256 = .ok data' ∧ w.shared.output = some data' := by
    have hpublished : Published sha256 w →
        ∃ data', c'.header sha256 = .ok data' ∧ w.shared.output = some data' := by
      rintro ⟨j, data', -, hdata', hout⟩
      exact ⟨data', hcalls j ▸ hdata', hout⟩
    cases b with
    | true => exact hpublished (hfrom.published i hi)
    | false =>
        rcases hfrom.unchanged i hi with ⟨data', hdata', hout⟩ | hp
        · exact ⟨data', hcalls i ▸ hdata', hout⟩
        · exact hpublished hp
  refine ⟨hout, fun ⟨j, hj⟩ hsame => (hidle hsame).2 j hj, fun hother => ?_⟩
  by_contra hnone
  obtain ⟨data', hdata', hout⟩ := hout
  have hbefore := hfrom.untouched fun j hj => hnone ⟨j, hj⟩
  rw [hout, hinit] at hbefore
  obtain rfl : data' = data := Option.some.inj hbefore
  exact hother ((header_eq_iff hlen hdata hdata' htemplate hnul hnul' hsha).mp rfl)

end Headers

/-- The edit of the tests: after the next build has returned, somebody has rewritten the
    header. -/
theorem generate_rewrites_iff_firstFix :
    ∃ (w : Threads Unit OutputDir GenerateProcess) (data : List Byte),
      Reach (GenerateInitial (fun _ => firstFixBuild) ⟨some data, fun _ => none⟩)
        (Threads.Step (GenerateStep digestOf)) w ∧
      originalBuild.header digestOf = .ok data ∧ ¬originalBuild.SameInputs firstFixBuild ∧
      ∃ j, (w.own j).point = .returned true := by
  obtain ⟨stream, hstream, hlen⟩ := stream_originalBuild
  obtain ⟨stream', hstream', hlen'⟩ := stream_firstFixBuild
  obtain ⟨data, hdata⟩ := header_testCall hstream
  obtain ⟨data', hdata'⟩ := header_testCall hstream'
  have hother : ¬originalBuild.SameInputs firstFixBuild := by
    intro hsame
    have hstreams := hsame.stream
    rw [hstream, hstream'] at hstreams
    have hequal := congrArg List.length (Except.ok.inj hstreams)
    rw [hlen, hlen'] at hequal
    exact absurd hequal (by decide)
  have hdigests : ∀ stream, (digestOf stream).length = 32 := by
    intro stream
    rw [digestOf]
    split
    case isTrue => rfl
    case isFalse => rfl
  have hsha : ∀ s s', originalBuild.stream = .ok s → firstFixBuild.stream = .ok s' →
      digestOf s = digestOf s' → s = s' := by
    intro s s' hs hs' heq
    obtain rfl : stream = s := Except.ok.inj (hstream.symm.trans hs)
    obtain rfl : stream' = s' := Except.ok.inj (hstream'.symm.trans hs')
    rw [digestOf, digestOf, if_pos hlen, if_neg (by rw [hlen']; decide)] at heq
    exact absurd heq (by decide)
  let own : Unit → GenerateProcess := fun _ => ⟨firstFixBuild, .preparing⟩
  have hinit : Reach (GenerateInitial (fun _ => firstFixBuild) ⟨some data, fun _ => none⟩)
      (Threads.Step (GenerateStep digestOf))
      ⟨⟨some data, fun _ => none⟩, Function.update own () ⟨firstFixBuild, .preparing⟩⟩ := by
    have hown : Function.update own () ⟨firstFixBuild, .preparing⟩ = own :=
      Function.update_eq_self () own
    rw [hown]
    exact .init ⟨rfl, fun _ => rfl⟩
  have hname : (⟨some data, fun _ => none⟩ : OutputDir).temporary 0 = none := rfl
  obtain ⟨dir', b, hout, hreach⟩ := reach_returned hinit hdata' hname
  have hiff := (generate_rewrites_iff hdigests hdata rfl
    ((readTemplate_testCall _).trans (readTemplate_testCall _).symm) (testCall_nulFree _)
    (testCall_nulFree _) hsha hreach).2 () b rfl
  exact ⟨_, data, hreach, hdata, hother, hiff.2.mpr hother⟩
end VirtioWddm
