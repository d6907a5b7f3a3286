import Componentry.Command.Run
import Componentry.Proofs.Yields
import Mathlib.Data.List.Basic

/-!
# What the command writes

The command reads one file and writes three into a directory.

**Theorem (`run_touches_only_outputs`).** A run that refuses the source writes nothing. Any other
run writes the two summaries and the module, three different files, and leaves every other file as
it was. The source is among the three exactly if it lies in the directory itself and is called like
a module or like one of the summaries. It then holds what the run has written.

A module is called like its source, with the suffix replaced. So for a source with the suffix of a
module the two have one name, and only their directories tell them apart.
-/

namespace Componentry

/-! ## Parts of paths -/

namespace Path

/-- A text that stands between slashes and means something there. -/
def IsPart (p : String) : Prop := p ≠ "" ∧ p ≠ "." ∧ '/' ∉ p.toList

theorem not_mem_splitSlashes {current cs : List Char} (h : '/' ∉ current) :
    ∀ piece ∈ splitSlashes current cs, '/' ∉ piece := by
  induction cs generalizing current with
  | nil =>
    intro piece hpiece
    obtain rfl : piece = current.reverse := by simpa [splitSlashes] using hpiece
    simpa using h
  | cons c rest ih =>
    intro piece hpiece
    rw [splitSlashes] at hpiece
    split_ifs at hpiece with hc
    · rcases List.mem_cons.mp hpiece with rfl | hpiece
      · simpa using h
      · exact ih List.not_mem_nil piece hpiece
    · exact ih (by simp [h, Ne.symm hc]) piece hpiece

theorem isPart_of_mem_parts {path p : String} (h : p ∈ parts path) : IsPart p := by
  obtain ⟨hmem, hproper⟩ := List.mem_filter.mp h
  obtain ⟨piece, hpiece, rfl⟩ := List.mem_map.mp hmem
  obtain ⟨hne, hdot⟩ : String.ofList piece ≠ "" ∧ String.ofList piece ≠ "." := by
    simpa using hproper
  refine ⟨hne, hdot, ?_⟩
  simpa using not_mem_splitSlashes List.not_mem_nil piece hpiece

theorem splitSlashes_append {current piece : List Char} (h : '/' ∉ piece) (rest : List Char) :
    splitSlashes current (piece ++ '/' :: rest) =
      (current.reverse ++ piece) :: splitSlashes [] rest := by
  induction piece generalizing current with
  | nil => simp [splitSlashes]
  | cons c cs ih =>
    obtain ⟨hc, hcs⟩ : '/' ≠ c ∧ '/' ∉ cs := by simpa using h
    rw [List.cons_append, splitSlashes, if_neg hc.symm, ih hcs]
    simp

theorem splitSlashes_last {current piece : List Char} (h : '/' ∉ piece) :
    splitSlashes current piece = [current.reverse ++ piece] := by
  induction piece generalizing current with
  | nil => simp [splitSlashes]
  | cons c cs ih =>
    obtain ⟨hc, hcs⟩ : '/' ≠ c ∧ '/' ∉ cs := by simpa using h
    rw [splitSlashes, if_neg hc.symm, ih hcs]
    simp

theorem splitSlashes_joinWith {ps : List String} (h : ∀ p ∈ ps, IsPart p) (hne : ps ≠ []) :
    (splitSlashes [] (Text.joinWith "/" ps).toList).map String.ofList = ps := by
  induction ps with
  | nil => exact absurd rfl hne
  | cons p rest ih =>
    obtain ⟨hp, hrest⟩ := List.forall_mem_cons.mp h
    cases rest with
    | nil =>
      rw [Text.joinWith, splitSlashes_last hp.2.2]
      simp
    | cons q rest =>
      have htext : (Text.joinWith "/" (p :: q :: rest)).toList =
          p.toList ++ '/' :: (Text.joinWith "/" (q :: rest)).toList := by
        simp [Text.joinWith]
      rw [htext, splitSlashes_append hp.2.2, List.map_cons, ih hrest (by simp)]
      simp

theorem parts_ofParts {ps : List String} (h : ∀ p ∈ ps, IsPart p) : parts (ofParts ps) = ps := by
  have hroot : (ofParts ps).toList = '/' :: (Text.joinWith "/" ps).toList := by
    simp [ofParts]
  unfold parts
  rw [hroot, splitSlashes, if_pos rfl, List.map_cons]
  cases ps with
  | nil => decide
  | cons p rest =>
    rw [splitSlashes_joinWith h (by simp), List.filter_cons_of_neg (by simp), List.filter_eq_self]
    intro q hq
    simpa using And.intro (h q hq).1 (h q hq).2.1

theorem name_ofParts {ps : List String} (h : ∀ p ∈ ps, IsPart p) :
    name (ofParts ps) = ps.getLast?.getD "" := by
  rw [name, parts_ofParts h]

theorem ofParts_ne_empty (ps : List String) : ofParts ps ≠ "" := by
  intro h
  have hchars := congrArg String.toList h
  simp [ofParts] at hchars

def moduleSuffix : String := ".py"

/-- A file is called like its own module exactly if it has the suffix of a module. -/
theorem withoutSuffix_append_eq_iff {name : String} :
    withoutSuffix name ++ moduleSuffix = name ↔ ∃ s ≠ "", name = s ++ moduleSuffix := by
  constructor
  · intro h
    refine ⟨withoutSuffix name, fun hempty => ?_, h.symm⟩
    -- A lone suffix is a whole name, so nothing is cut off it.
    rw [hempty] at h
    obtain rfl : moduleSuffix = name := by simpa using h
    revert hempty
    decide
  · rintro ⟨s, hs, rfl⟩
    have hreverse : (s ++ moduleSuffix).toList.reverse = ['y', 'p', '.'] ++ s.toList.reverse := by
      simp [moduleSuffix]
    have hsuffix : (['y', 'p', '.'] ++ s.toList.reverse).takeWhile (· != '.') = ['y', 'p'] := rfl
    have hstem : (['y', 'p', '.'] ++ s.toList.reverse).drop 3 = s.toList.reverse := rfl
    have hs' : s.toList ≠ [] := by simpa using hs
    simp only [withoutSuffix, hreverse, hsuffix, List.length_cons, List.length_nil, Nat.reduceAdd,
      hstem, List.reverse_reverse]
    rw [if_neg (by simpa using hs'), String.ofList_toList]

end Path

namespace Command

theorem isPart_of_mem_resolvePath (cwd path : String) :
    ∀ p ∈ resolvePath (Path.parts cwd) path, Path.IsPart p := by
  unfold resolvePath
  have hstart : ∀ p ∈ (if Path.isAbsolute path then [] else Path.parts cwd), Path.IsPart p := by
    split_ifs
    · simp
    · exact fun p => Path.isPart_of_mem_parts
  have hparts : ∀ p ∈ Path.parts path, Path.IsPart p := fun p => Path.isPart_of_mem_parts
  generalize (if Path.isAbsolute path then [] else Path.parts cwd) = start at hstart ⊢
  generalize Path.parts path = ps at hparts ⊢
  induction ps generalizing start with
  | nil => exact hstart
  | cons q rest ih =>
    obtain ⟨hq, hrest⟩ := List.forall_mem_cons.mp hparts
    rw [List.foldl_cons]
    refine ih _ ?_ hrest
    split_ifs
    · exact fun p hp => hstart p (List.dropLast_subset _ hp)
    · intro p hp
      rcases List.mem_append.mp hp with hp | hp
      · exact hstart p hp
      · exact List.mem_singleton.mp hp ▸ hq

/-! ## Writing files -/

namespace FileTree

theorem text?_write (t : FileTree) (path q : List String) (text : String) :
    (t.write path text).text? q = if q = path then some text else t.text? q := by
  unfold text? write
  by_cases h : q = path
  · simp [h]
  · have hskip : (path == q) = false := by simpa using fun hq : path = q => h hq.symm
    rw [if_neg h, List.find?_cons_of_neg (by simp [hskip]), List.find?_filter]
    congr 2
    funext f
    by_cases hf : f.1 = q <;> simp [hf, h]

end FileTree

/-- The tree after some files are written. -/
def writeAll (tree : FileTree) (writes : List (List String × String)) : FileTree :=
  writes.foldl (fun t w => t.write w.1 w.2) tree

theorem text?_writeAll_of_not_mem {writes : List (List String × String)} {path : List String}
    (h : path ∉ writes.map Prod.fst) (tree : FileTree) :
    (writeAll tree writes).text? path = tree.text? path := by
  induction writes generalizing tree with
  | nil => rfl
  | cons w rest ih =>
    obtain ⟨hw, hrest⟩ : path ≠ w.1 ∧ path ∉ rest.map Prod.fst := by simpa using h
    show (writeAll (tree.write w.1 w.2) rest).text? path = _
    rw [ih hrest, FileTree.text?_write, if_neg hw]

/-- Of files under different names each has the text that was written. -/
theorem text?_writeAll_of_mem {writes : List (List String × String)}
    (hnodup : (writes.map Prod.fst).Nodup) {w : List String × String} (hw : w ∈ writes)
    (tree : FileTree) : (writeAll tree writes).text? w.1 = some w.2 := by
  induction writes generalizing tree with
  | nil => exact absurd hw List.not_mem_nil
  | cons first rest ih =>
    obtain ⟨hfirst, hrest⟩ := List.nodup_cons.mp hnodup
    show (writeAll (tree.write first.1 first.2) rest).text? w.1 = _
    rcases List.mem_cons.mp hw with rfl | hw
    · rw [text?_writeAll_of_not_mem hfirst, FileTree.text?_write, if_pos rfl]
    · exact ih hrest hw _

/-! ## The three files -/

/-- The name of a file, the last part of its path. -/
def fileName (path : List String) : String := path.getLast?.getD ""

/-- The name of the module that is generated from a source. -/
def generatedName (source : List String) : String :=
  Path.withoutSuffix (fileName source) ++ Path.moduleSuffix

/-- The files that a run writes into a directory, in order. -/
def outputs (output source : List String) : List (List String) :=
  [output ++ [Export.summaryFile], output ++ [Export.codeFile], output ++ [generatedName source]]

theorem generatedName_ne {source : List String} {name : String}
    (h : name.toList.getLast? = some 'n') : generatedName source ≠ name := by
  rintro rfl
  simp [generatedName, Path.moduleSuffix] at h

theorem nodup_outputs (output source : List String) : (outputs output source).Nodup := by
  have hsummary : generatedName source ≠ Export.summaryFile := generatedName_ne rfl
  have hcode : generatedName source ≠ Export.codeFile := generatedName_ne rfl
  have hdiffer : Export.summaryFile ≠ Export.codeFile := by decide
  simp [outputs, hdiffer, hsummary.symm, hcode.symm]

/-- A source is written over: it lies in the directory itself, under the name of a module or of a
summary. -/
def IsWrittenOver (output source : List String) : Prop :=
  source.dropLast = output ∧
    (fileName source = Export.summaryFile ∨ fileName source = Export.codeFile ∨
      ∃ s ≠ "", fileName source = s ++ Path.moduleSuffix)

theorem eq_append_fileName_iff {path directory : List String} {name : String} (hname : name ≠ "") :
    path = directory ++ [name] ↔ path.dropLast = directory ∧ fileName path = name := by
  constructor
  · rintro rfl
    simp [fileName]
  · rintro ⟨rfl, rfl⟩
    cases hlast : path.getLast? with
    | none => simp [fileName, hlast] at hname
    | some last => simp [fileName, hlast, List.dropLast_append_getLast? last hlast]

theorem mem_outputs_iff {output source : List String} :
    source ∈ outputs output source ↔ IsWrittenOver output source := by
  have hmodule : generatedName source ≠ "" := by
    intro h
    simpa [generatedName, Path.moduleSuffix] using congrArg String.toList h
  simp only [outputs, List.mem_cons, List.not_mem_nil, or_false]
  rw [eq_append_fileName_iff (by decide), eq_append_fileName_iff (by decide),
    eq_append_fileName_iff hmodule, IsWrittenOver, eq_comm (b := generatedName source),
    generatedName, Path.withoutSuffix_append_eq_iff]
  tauto

theorem moduleFile_ofParts {source : List String} (h : ∀ p ∈ source, Path.IsPart p) :
    Export.moduleFile (some (Path.ofParts source)) = generatedName source := by
  have hpath : Emit.nonEmpty (some (Path.ofParts source)) = some (Path.ofParts source) := by
    simp [Emit.nonEmpty, Path.ofParts_ne_empty]
  rw [Export.moduleFile, hpath, generatedName, fileName, ← Path.name_ofParts h]
  rfl

theorem filesAs_names {name : Json} {path host : Option String} {m : Ir.Module}
    {files : List (String × String)} (h : Export.filesAs name path host m = .ok files) :
    files.map Prod.fst = [Export.summaryFile, Export.codeFile, Export.moduleFile path] := by
  unfold Export.filesAs at h
  cases hcode : Emit.write m host ((Emit.nonEmpty path).map Path.name) with
  | error fault => simp [hcode, bind, Except.bind] at h
  | ok text =>
    obtain rfl : _ = files := by simpa [hcode, bind, Except.bind, pure, Except.pure] using h
    rfl

/-! ## Reports -/

theorem writes_of_success {args : Arguments} {source output : List String} {m : Ir.Module}
    {log : List (Option String)} {report : Report}
    (h : success args source output m log = .ok report) (hsource : ∀ p ∈ source, Path.IsPart p) :
    report.exitCode = 0 ∧ report.writes.map Prod.fst = outputs output source := by
  unfold success at h
  cases hfiles : Export.filesAs (shownName args m)
    (some (Path.ofParts source)) args.hostModule m with
  | error fault => simp [hfiles, bind, Except.bind] at h
  | ok files =>
    obtain rfl : _ = report := by simpa [hfiles, bind, Except.bind, pure, Except.pure] using h
    refine ⟨rfl, ?_⟩
    calc (files.map fun f => (output ++ [f.1], f.2)).map Prod.fst
        = (files.map Prod.fst).map fun name => output ++ [name] := by simp
      _ = outputs output source := by
        rw [filesAs_names hfiles, moduleFile_ofParts hsource]
        rfl

/-- Compiling a source refuses it and writes nothing, or writes the three files. -/
theorem build_cases {args : Arguments} {policy : DuplicatePolicy} {source output : List String}
    {text : String} {report : Report} (h : build args policy source output text = .ok report)
    (hsource : ∀ p ∈ source, Path.IsPart p) :
    (report.exitCode = 1 ∧ report.writes = []) ∨
      (report.exitCode = 0 ∧ report.writes.map Prod.fst = outputs output source) := by
  unfold build at h
  dsimp only at h
  split at h
  · obtain rfl : _ = report := by simpa [bind, Except.bind, pure, Except.pure] using h
    exact .inl ⟨rfl, rfl⟩
  · rename_i m hresult
    cases hsuccess : success args source output m
      (compile Messages.standard policy (some (Path.ofParts source))
        (args.moduleName.map (·.getD "")) (String.ofList (Text.uniformEnds text.toList))).log with
    | error fault => simp [hsuccess, bind, Except.bind, Except.mapError] at h
    | ok built =>
      obtain rfl : _ = report := by
        simpa [hsuccess, bind, Except.bind, pure, Except.pure, Except.mapError] using h
      have hbuilt := writes_of_success hsuccess hsource
      exact .inr hbuilt

/-- A run refuses, or it compiles the text that it found at the source's path. -/
theorem execute_cases {args : Arguments} {directory : List String} {found : Found}
    {report : Report} (h : execute args directory found = .ok report) :
    (report.exitCode = 1 ∧ report.writes = []) ∨
      ∃ output policy text, args.output = some output ∧ found = .file text ∧
        build args policy (resolvePath directory args.source) (resolvePath directory output) text =
          .ok report := by
  unfold execute at h
  dsimp only at h
  split at h
  · cases h
  · cases h
    exact .inl ⟨rfl, rfl⟩
  · cases h
    exact .inl ⟨rfl, rfl⟩
  · cases h
  · rename_i output text policy houtput _
    exact .inr ⟨output, policy, text, houtput, rfl, h⟩

theorem find_eq_file {tree : FileTree} {path : List String} {text : String}
    (h : find tree path = .file text) : tree.text? path = some text := by
  unfold find at h
  split at h
  · rename_i found hfound
    cases h
    exact hfound
  · split_ifs at h

/-- What a run that built something has done to a file tree. -/
structure Built (tree : FileTree) (output source : List String) (report : Report) : Prop where
  /-- The source was there. -/
  read : ∃ text, tree.text? source = some text
  /-- The files that are written are the three outputs. -/
  paths : report.writes.map Prod.fst = outputs output source
  /-- They are three different files. -/
  different : (outputs output source).Nodup
  /-- Each has the text that was written to it. -/
  written : ∀ w ∈ report.writes, (report.apply tree).text? w.1 = some w.2
  /-- Every other file has the text that it had, and none is new. -/
  kept : ∀ path ∉ outputs output source, (report.apply tree).text? path = tree.text? path
  /-- The source is one of the three only by its name and directory. -/
  source_mem : source ∈ outputs output source ↔ IsWrittenOver output source

theorem built_of_paths {tree : FileTree} {output source : List String} {report : Report}
    {text : String} (hread : tree.text? source = some text)
    (hpaths : report.writes.map Prod.fst = outputs output source) :
    Built tree output source report where
  read := ⟨text, hread⟩
  paths := hpaths
  different := nodup_outputs output source
  written _ hw := text?_writeAll_of_mem (hpaths ▸ nodup_outputs output source) hw tree
  kept _ hpath := text?_writeAll_of_not_mem (hpaths ▸ hpath) tree
  source_mem := mem_outputs_iff

/-- **A run touches only its outputs.** With status one nothing is written. With status zero the
three outputs hold what is written, and every file that is none of them is as it was. The source is
one of them exactly if it lies in the output directory under the name of a module or of a summary,
and then it holds what is written, be it another text or not. A file tree has no links, so paths
tell files apart. -/
theorem run_touches_only_outputs {argv : List String} {cwd : String} {tree : FileTree}
    {args : Arguments} {report : Report} (hargs : parse argv = .ok args)
    (hrun : run argv (Path.parts cwd) tree = .ok report) :
    (report.exitCode = 1 ∧ report.writes = [] ∧ report.apply tree = tree) ∨
      (report.exitCode = 0 ∧ ∃ output, args.output = some output ∧
        Built tree (resolvePath (Path.parts cwd) output) (resolvePath (Path.parts cwd) args.source)
          report) := by
  have hexecute : execute args (Path.parts cwd)
      (find tree (resolvePath (Path.parts cwd) args.source)) = .ok report := by
    simpa [run, hargs, bind, Except.bind, Except.mapError] using hrun
  have hnothing (hwrites : report.writes = []) : report.apply tree = tree := by
    rw [Report.apply, hwrites, List.foldl_nil]
  rcases execute_cases hexecute with ⟨hcode, hwrites⟩ |
    ⟨output, policy, text, houtput, hfound, hbuild⟩
  · exact .inl ⟨hcode, hwrites, hnothing hwrites⟩
  · have hsource := isPart_of_mem_resolvePath cwd args.source
    rcases build_cases hbuild hsource with ⟨hcode, hwrites⟩ | ⟨hcode, hpaths⟩
    · exact .inl ⟨hcode, hwrites, hnothing hwrites⟩
    · exact .inr ⟨hcode, output, houtput, built_of_paths (find_eq_file hfound) hpaths⟩

/-- A directory with one source in it. -/
def hall : FileTree where
  files := [(["work", "hall.py"], "class Door:\n    width: int = 1\n")]

theorem hall_touches_only_outputs :
    ∃ args report, parse ["hall.py"] = .ok args ∧
      run ["hall.py"] (Path.parts "/work") hall = .ok report ∧ report.exitCode = 0 ∧
      Built hall ["work", "build"] ["work", "hall.py"] report := by
  obtain ⟨args, hargs, houtput, hsource⟩ : ∃ args, parse ["hall.py"] = .ok args ∧
      args.output = some "build" ∧ args.source = "hall.py" := exists_ok (by decide +kernel)
  obtain ⟨report, hrun, hcode⟩ : ∃ report, run ["hall.py"] (Path.parts "/work") hall = .ok report ∧
      report.exitCode = 0 := exists_ok (by decide +kernel)
  rcases run_touches_only_outputs hargs hrun with ⟨hcode', -⟩ | ⟨-, output, houtput', hbuilt⟩
  · exact absurd (hcode.symm.trans hcode') (by decide)
  · obtain rfl : "build" = output := by simpa [houtput] using houtput'
    rw [hsource] at hbuilt
    exact ⟨args, report, hargs, hrun, hcode, hbuilt⟩

/-- A run that writes into the directory of its source loses the source and ends well. -/
theorem hall_is_written_over :
    ∃ report, run ["hall.py", "--output", "."] (Path.parts "/work") hall = .ok report ∧
      report.exitCode = 0 ∧
      (report.apply hall).text? ["work", "hall.py"] ≠ hall.text? ["work", "hall.py"] :=
  exists_ok (by decide +kernel)

end Command

end Componentry
