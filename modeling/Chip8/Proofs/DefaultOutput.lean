import Chip8.Proofs.Outputs

/-!
# The default output

Without another place to go to, an image goes beside its source: the name is the same but for the
extension.  So the source is safe, unless the name of its image leads to itself.  Where the names in
a directory lead to different files, that is so for the names alone that have the extension of an
image already; then the source is its own image's place, and the run writes over it.
-/

namespace Chip8

open CommandLine (imageExtension)

/-! ### Extensions -/

namespace Path

variable {before rest name : Text} {path : Path}

/-- Holds of paths whose last part is at least one character and the extension of an image. -/
def NamedAsImage (path : Path) : Prop :=
  ∃ before, before ≠ [] ∧ path.parts.getLast? = some (before ++ imageExtension)

/-- An extension starts at the last dot. -/
theorem stem_append (hbefore : before ≠ []) (hrest : rest ≠ []) (hdot : '.' ∉ rest) :
    stem (before ++ '.' :: rest) = before := by
  have hextension : ((before ++ '.' :: rest).reverse.takeWhile (· != '.')).length =
      rest.length := by
    have hall : ∀ c ∈ rest.reverse, (c != '.') = true := by
      intro c hc
      rw [bne_iff_ne]
      rintro rfl
      exact hdot (List.mem_reverse.mp hc)
    rw [List.reverse_append, List.reverse_cons, List.append_assoc,
      List.takeWhile_append_of_pos hall, List.singleton_append,
      List.takeWhile_cons_of_neg (by decide), List.append_nil, List.length_reverse]
  have hlength : (before ++ '.' :: rest).length = before.length + (rest.length + 1) := by
    rw [List.length_append, List.length_cons]
  have hplace : before.length + (rest.length + 1) - rest.length - 1 = before.length := by omega
  unfold stem
  simp only [hextension, hlength, hplace]
  rw [if_pos (by simp [List.length_pos_iff.mpr hbefore, List.length_pos_iff.mpr hrest]),
    List.take_left]

/-- A name is its own image's name if something stands before the extension. -/
theorem stem_append_imageExtension_iff : stem name ++ imageExtension = name ↔
    ∃ before, before ≠ [] ∧ name = before ++ imageExtension := by
  constructor
  · intro h
    refine ⟨stem name, fun hnone => ?_, h.symm⟩
    -- with nothing before its dot, the name would be its own stem
    have hstem : stem imageExtension = imageExtension := by decide
    rw [hnone, List.nil_append] at h
    rw [← h, hstem] at hnone
    exact List.cons_ne_nil _ _ hnone
  · rintro ⟨before, hbefore, rfl⟩
    rw [show imageExtension = '.' :: "ch8".toList from rfl,
      stem_append hbefore (by decide) (by decide)]

theorem withExtension?_of_parts {slashes : Nat} {names : List Text} (extension : Text) :
    withExtension? extension ⟨slashes, names ++ [name]⟩ =
      some ⟨slashes, names ++ [stem name ++ extension]⟩ := by
  unfold withExtension?
  rw [List.getLast?_concat, Option.map_some, List.dropLast_concat]

theorem exists_parts_of_withExtension? {extension : Text} {output : Path}
    (h : path.withExtension? extension = some output) :
    ∃ slashes names name, path = ⟨slashes, names ++ [name]⟩ ∧
      output = ⟨slashes, names ++ [stem name ++ extension]⟩ := by
  obtain ⟨slashes, parts⟩ := path
  rcases List.eq_nil_or_concat parts with rfl | ⟨names, name, rfl⟩
  · contradiction
  · rw [List.concat_eq_append] at h ⊢
    rw [withExtension?_of_parts] at h
    exact ⟨slashes, names, name, rfl, (Option.some.inj h).symm⟩

theorem namedAsImage_iff {slashes : Nat} {names : List Text} :
    NamedAsImage ⟨slashes, names ++ [name]⟩ ↔ stem name ++ imageExtension = name := by
  rw [stem_append_imageExtension_iff]
  unfold NamedAsImage
  rw [List.getLast?_concat]
  simp only [Option.some.injEq]

/-- A path is its own image's path if it is named so. -/
theorem withExtension?_eq_self_iff :
    path.withExtension? imageExtension = some path ↔ path.NamedAsImage := by
  constructor
  · intro h
    obtain ⟨slashes, names, name, rfl, hself⟩ := exists_parts_of_withExtension? h
    rw [namedAsImage_iff]
    have hparts := congrArg parts hself
    exact (List.head_eq_of_cons_eq (List.append_cancel_left hparts)).symm
  · intro h
    obtain ⟨slashes, parts⟩ := path
    obtain ⟨before, hbefore, hlast⟩ := h
    obtain ⟨names, rfl⟩ := List.getLast?_eq_some_iff.mp hlast
    rw [withExtension?_of_parts, stem_append_imageExtension_iff.mpr ⟨before, hbefore, rfl⟩]

end Path

namespace CommandLine

/-! ### Names in a directory -/

section

variable {σ F : Type} {view : FileView σ F} {s : σ} {path output : Path} {file : F}

/-- Holds when the names in a directory lead to different files.  Then there are no links among
them, and names that differ in case are different. -/
def FileView.NamesApart (view : FileView σ F) (s : σ) : Prop :=
  ∀ slashes names name other file,
    view.entry s ⟨slashes, names ++ [name]⟩ = .file file →
      view.entry s ⟨slashes, names ++ [other]⟩ = .file file → name = other

theorem FileView.NamesApart.namedAsImage (h : view.NamesApart s)
    (hpath : path.withExtension? imageExtension = some output)
    (hfile : view.entry s path = .file file) (houtput : view.entry s output = .file file) :
    path.NamedAsImage := by
  obtain ⟨slashes, names, name, rfl, rfl⟩ := Path.exists_parts_of_withExtension? hpath
  exact Path.namedAsImage_iff.mpr (h _ _ _ _ _ houtput hfile)

end

/-- A desk has no links. -/
theorem Desk.namesApart (desk : Desk) : files.NamesApart desk := by
  intro slashes names name other place hname hother
  obtain ⟨hname, hfile⟩ := FileTree.entry_eq_file_iff.mp hname
  obtain ⟨hother, -⟩ := FileTree.entry_eq_file_iff.mp hother
  -- the last name of a path to a file is the last of its place
  have hlast {last : Text}
      (hpath : desk.tree.placeOf ⟨slashes, names ++ [last]⟩ = .ok place) :
      place.getLast? = some last := by
    obtain ⟨names', last', above, hparts, -, -, -, rfl⟩ :=
      FileTree.exists_name_of_file hpath hfile
    rw [List.getLast?_concat, ← List.getLast?_concat (l := names'), ← hparts, List.getLast?_concat]
  exact Option.some.inj ((hlast hname).symm.trans (hlast hother))

/-! ### Runs without options for outputs -/

section

variable {σ F : Type} [Disk (StateM σ)] [Console (StateM σ)] {view : FileView σ F}
  {front : Front (StateM σ)} {environment : Environment} {words : List Text} {s s' : σ}
  {status : Nat} {path output : Path} {listingPath : Option Path} {assembly : Assembly} {file : F}

theorem Spoiled.touched {interruption : Interruption}
    (h : Spoiled view s s' output listingPath assembly interruption) :
    view.Touched (output :: listingPath.toList) s s' := by
  cases h with
  | image htouched => exact htouched.mono (by simp)
  | unopened _ hwritten => exact hwritten.others.mono (by simp)
  | listing hpath htouched => exact hpath ▸ htouched
  | muted hpath hwritten =>
      rcases hpath with rfl | rfl
      · exact hwritten.others.mono (by simp)
      · exact hwritten.others

theorem Failed.touched {call : Call} (h : Failed view s s' call output assembly status) :
    view.Touched (output :: call.listing.toList) s s' := by
  cases h with
  | interrupted hspoiled _ hafter => exact hspoiled.touched.trans (hafter.of_nil _)
  | unclosed hwritten _ _ hafter => exact hwritten.others.trans (hafter.of_nil _)

/-- A run changes no other files than its outputs, and they lead where they led. -/
theorem exists_touched_of_run (hview : view.Lawful) (hfront : front.Lawful view)
    (h : (run front environment words : StateM σ Nat).run s = (status, s')) :
    ∃ paths, view.Touched paths s s' := by
  rcases cases_of_run hview hfront h with ⟨htouched, -⟩ |
    ⟨_, _, _, _, _, -, -, -, ⟨-, hwritten⟩ | ⟨-, hfailed⟩⟩
  · exact ⟨_, htouched⟩
  · exact ⟨_, hwritten.others⟩
  · exact ⟨_, hfailed.touched⟩

/-- A run that is given no output leaves a file as it is that its input leads to, unless the path
beside the input leads to it as well and the source is assembled; then a run that succeeds leaves
the image in it.  The path beside the input is the input itself if that is named as an image, and
where the names in a directory lead to different files it leads to the file for such names alone. -/
theorem run_keeps_input (hview : view.Lawful) (hfront : front.Lawful view)
    (h : (run front environment words : StateM σ Nat).run s = (status, s'))
    (hcall : ∀ call t, (front environment words).run s = (.called call, t) →
      call.input = path ∧ call.output = none ∧ call.listing = none)
    (hfile : view.entry s path = .file file) :
    (view.content s' file = view.content s file ∨
      ∃ call options source assembly output,
        Task view front environment words s call options source ∧
          assemble options path.text source = .ok assembly ∧
          path.withExtension? imageExtension = some output ∧
          view.entry s' output = .file file ∧
          (status = 0 → view.content s' file = assembly.image)) ∧
      (path.withExtension? imageExtension = some path ↔ path.NamedAsImage) ∧
      (view.NamesApart s' → ∀ output, path.withExtension? imageExtension = some output →
        (view.entry s' output = .file file ↔ path.NamedAsImage)) := by
  refine ⟨?kept, Path.withExtension?_eq_self_iff, fun hapart output houtput => ?beside⟩
  case kept =>
    rcases cases_of_run hview hfront h with ⟨htouched, -⟩ |
      ⟨call, options, source, assembly, output, htask, hmade, houtput, hleft⟩
    · exact .inl (htouched.kept path file hfile fun _ hmem => absurd hmem List.not_mem_nil)
    · obtain ⟨t, hcalled⟩ := htask.called
      obtain ⟨rfl, hunnamed, hunlisted⟩ := hcall call t hcalled
      have hbeside : call.input.withExtension? imageExtension = some output := by
        unfold Call.imagePath? at houtput
        rwa [hunnamed] at houtput
      have htouched : view.Touched [output] s s' := by
        have hnone : output :: call.listing.toList = [output] := by rw [hunlisted]; rfl
        rw [← hnone]
        rcases hleft with ⟨-, hwritten⟩ | ⟨-, hfailed⟩
        · exact hwritten.others
        · exact hfailed.touched
      by_cases hsame : view.entry s' output = .file file
      · refine .inr ⟨call, options, source, assembly, output, htask, hmade, hbeside, hsame, ?_⟩
        intro hzero
        rcases hleft with ⟨-, hwritten⟩ | ⟨hfails, -⟩
        · rw [hunlisted] at hwritten
          exact hwritten.holds_image.2 file hsame
        · exact absurd hzero hfails
      · refine .inl (htouched.kept call.input file hfile fun other hmem => ?_)
        rwa [List.mem_singleton.mp hmem]
  case beside =>
    obtain ⟨paths, htouched⟩ := exists_touched_of_run hview hfront h
    have hstill := htouched.entry_eq_file hfile
    refine ⟨fun hsame => hapart.namedAsImage houtput hstill hsame, fun hnamed => ?_⟩
    obtain rfl := Option.some.inj ((Path.withExtension?_eq_self_iff.mpr hnamed).symm.trans houtput)
    exact hstill

/-- The name of a hidden file is no extension, so its image gets a name of its own. -/
theorem run_keeps_input_hidden :
    ∃ later,
      (holding [(".ch8".toList, Text.Utf8.encode "CLS".toList)]).run [] [".ch8".toList] =
          (0, later) ∧
        later.tree.read (Path.ofText ".ch8.ch8".toList) = .ok [0x00, 0xE0] ∧
        later.tree.read (Path.ofText ".ch8".toList) = .ok (Text.Utf8.encode "CLS".toList) := by
  have hreading : ((Desk.reader [] [".ch8".toList]).run
      (holding [(".ch8".toList, Text.Utf8.encode "CLS".toList)])).1 =
        .called { input := Path.ofText ".ch8".toList } := by
    decide +kernel
  have hentry : Desk.files.entry (holding [(".ch8".toList, Text.Utf8.encode "CLS".toList)])
      (Path.ofText ".ch8".toList) = .file [".ch8".toList] := by
    decide +kernel
  have hhidden : ¬(Path.ofText ".ch8".toList).NamedAsImage := by
    rintro ⟨before, hbefore, hlast⟩
    have hparts : (Path.ofText ".ch8".toList).parts = [imageExtension] := by decide +kernel
    rw [hparts, List.getLast?_singleton] at hlast
    exact hbefore (List.self_eq_append_left.mp (Option.some.inj hlast))
  cases h : (holding [(".ch8".toList, Text.Utf8.encode "CLS".toList)]).run [] [".ch8".toList] with
  | mk status later =>
      have hsuccess : status = 0 := (congrArg Prod.fst h).symm.trans (by decide +kernel)
      have himage : later.tree.read (Path.ofText ".ch8.ch8".toList) = .ok [0x00, 0xE0] := by
        rw [← congrArg (fun ending => ending.2.tree.read (Path.ofText ".ch8.ch8".toList)) h]
        decide +kernel
      have hlater : later.tree.entry (Path.ofText ".ch8".toList) = .file [".ch8".toList] := by
        rw [← congrArg (fun ending => ending.2.tree.entry (Path.ofText ".ch8".toList)) h]
        decide +kernel
      have hcall (call : Call) (t : Desk)
          (hcalled : (Desk.reader [] [".ch8".toList]).run
            (holding [(".ch8".toList, Text.Utf8.encode "CLS".toList)]) = (.called call, t)) :
          call.input = Path.ofText ".ch8".toList ∧ call.output = none ∧ call.listing = none := by
        rw [hcalled] at hreading
        rw [Reading.called.inj hreading]
        exact ⟨rfl, rfl, rfl⟩
      refine ⟨later, by rw [hsuccess], himage, ?_⟩
      obtain ⟨hkept, -, hbeside⟩ :=
        run_keeps_input Desk.lawful Desk.reader_lawful h hcall hentry
      rcases hkept with hkept | ⟨_, _, _, _, output, -, -, houtput, hsame, -⟩
      · exact Desk.read_of_holds (Desk.holds_of_entry hlater (hkept.trans (by decide +kernel)))
          hlater
      · exact absurd ((hbeside (Desk.namesApart later) output houtput).mp hsame) hhidden

/-- A source that is named as an image is lost to its image, also when the run fails later on. -/
theorem run_overwrites_input :
    let desk := holding [("x.ch8".toList, Text.Utf8.encode "CLS".toList)]
    let full : Desk := { desk with room := some 1 }
    Arguments.ofList? ["x.ch8".toList] = some { files := ["x.ch8".toList] } ∧
      desk.tree.read (Path.ofText "x.ch8".toList) = .ok (Text.Utf8.encode "CLS".toList) ∧
      (desk.run [] ["x.ch8".toList]).1 = 0 ∧
      (desk.run [] ["x.ch8".toList]).2.tree.read (Path.ofText "x.ch8".toList) = .ok [0x00, 0xE0] ∧
      (full.run [] ["x.ch8".toList]).1 = 3 ∧
      (full.run [] ["x.ch8".toList]).2.tree.read (Path.ofText "x.ch8".toList) = .ok [0x00] ∧
      [0x00, 0xE0] ≠ Text.Utf8.encode "CLS".toList := by
  refine ⟨?_, ?_, ?_, ?_, ?_, ?_, ?_⟩ <;> decide +kernel

end

end CommandLine

end Chip8
