import DynamicDns.Definition.Kinds
import DynamicDns.Yaml

/-!
# Definition files

The definitions are handed out as YAML files, one for each kind, each below a notice that says whose
they are, under which licence, and how they are made. The files go into one directory; where it
cannot be made there is nothing to write and nothing to say.
-/

namespace DynamicDns.Definition

/-- What stands above a file. -/
structure Notice where
  year : Nat
  holders : List String
  licence : String
  source : String
  command : String

def notice : Notice where
  year := 2025
  holders := ["Erick Bourgeois", "firestoned"]
  licence := "MIT"
  source := "src/crd.rs"
  command := "cargo run --bin crdgen"

def Notice.lines (notice : Notice) : List String :=
  ["# Copyright (c) " ++ toString notice.year ++ " " ++ String.intercalate ", " notice.holders,
    "# SPDX-License-Identifier: " ++ notice.licence,
    "#",
    "# This file is AUTO-GENERATED from " ++ notice.source,
    "# DO NOT EDIT MANUALLY - Run `" ++ notice.command ++ "` to regenerate",
    "#"]

def directory : String := "deploy/crds"

def fileName (kind : Kind) : String := kind.plural ++ ".crd.yaml"

def fileText (kind : Kind) : String :=
  String.join (notice.lines.map (· ++ "\n")) ++ Yaml.document (ofKind kind).encode

/-- The kinds that have a file, in the order in which the files are written. -/
def kinds : List Kind := [.provider, .notifier]

/-- What writing the files leaves behind: an exit code, the lines that are printed, and the files by
name. -/
structure Report where
  exitCode : UInt32
  printed : List String
  files : List (String × String)

/-- Writes the files, if the directory can be made. -/
def report (directoryMade : Bool) : Report :=
  if directoryMade then
    { exitCode := 0
      printed :=
        ["Generating CRD YAML files from " ++ notice.source ++ "..."] ++
        kinds.map (fun kind => "  ✓ Generated " ++ fileName kind) ++
        ["✓ Successfully generated CRD YAML files in " ++ directory ++ "/",
          "",
          "Next steps:",
          "  1. Review the generated files",
          "  2. Deploy with: kubectl apply -f " ++ directory ++ "/"]
      files := kinds.map fun kind => (fileName kind, fileText kind) }
  else ⟨1, [], []⟩

end DynamicDns.Definition
