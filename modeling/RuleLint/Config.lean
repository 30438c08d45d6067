import RuleLint.Discovery
import RuleLint.Error
import RuleLint.Policy
import RuleLint.Toml.Decode

/-!
# Configuration

What a run is told by its configuration file: where rule documents are, which further files to
leave out, and the policy. Everything has a default, and a file that is not there says nothing.
-/

namespace RuleLint

structure Config where
  domainsDir : FilePath
  exclude : List String
  respectIgnoreFile : Bool
  policy : Policy

namespace Schema

def lintSettings : Schema :=
  .record "LintSettings"
    [("domains_dir", .default (.str Discovery.domainsDir.text), .path),
     ("exclude", .default (.arr []), .list .text),
     ("respect_gitignore", .default (.bool false), .flag)]

def config : Schema :=
  .record "Config"
    [("lint", .default (.obj []), lintSettings), ("policy", .default (.obj []), policy)]

end Schema

namespace Config

def fileName : FilePath := ⟨".flight-lint.toml"⟩

/-- The configuration that a value of its schema holds; what is not there has its default. -/
def ofJson (v : Json) : Config :=
  let lint := (v.get? "lint").getD (.obj [])
  { domainsDir := ((lint.get? "domains_dir").bind Json.str?).elim Discovery.domainsDir (⟨·⟩)
    exclude := (itemsOf lint "exclude").filterMap Json.str?
    respectIgnoreFile := lint.get? "respect_gitignore" matches some (.bool true)
    policy := Policy.ofJson ((v.get? "policy").getD (.obj [])) }

def default : Config := ⟨Discovery.domainsDir, [], false, Policy.default⟩

def parse (text : String) : Except String Config :=
  return ofJson (← Toml.parseAs Schema.config text)

def load (t : FileTree) (path : FilePath) : Except LintError Config :=
  if t.isThere path then do
    let text ← (t.readText path).mapError .file
    (parse text).mapError .toml
  else .ok default

def starter : String :=
"# flight-lint configuration

[lint]
# Directory searched by `flight-lint lint --auto` for *.rules.json files.
domains_dir = \".flight/domains\"

# Extra exclude globs applied to every rule set (relative to the base path).
# exclude = [\"generated/**\"]

# Also skip files ignored by the top-level .gitignore.
respect_gitignore = false

[policy]
# Results below this severity are hidden and never fail the run
# (GUIDANCE, SHOULD, MUST, NEVER).
min_severity = \"GUIDANCE\"

# Rule IDs to ignore: \"N1\" in every domain, or \"python/N1\" in one domain.
# ignore_rules = [\"python/N1\"]

# Per-rule severity overrides.
# [policy.overrides]
# \"S3\" = \"MUST\"
"

end Config

end RuleLint
