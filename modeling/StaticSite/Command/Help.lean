import StaticSite.Text.Basic

/-!
# Help

What the command says of itself.
-/

namespace StaticSite.Command

/-- How the command is used. -/
def usage : String :=
  "Usage: stencil [OPTIONS] <SOURCE> <DESTINATION>"

/-- The answer to a request for help. -/
def helpText : Text :=
  (String.intercalate "\n"
    [ "Compile page specs, templates and markdown into a static site",
      "",
      usage,
      "",
      "Arguments:",
      "  <SOURCE>       Source directory with pages.spec, globals.spec, templates and content",
      "  <DESTINATION>  Output directory, emptied before every build",
      "",
      "Options:",
      "  -p, --prod           Production build: apply \x60prod:\x60 overrides from globals.spec",
      "  -d, --debug          Show debug logs",
      "  -c, --config <FILE>  Build configuration file [default: ./stencil.toml]",
      "  -h, --help           Print help",
      "  -V, --version        Print version",
      "" ]).toList

/-- The answer to a request for the version. -/
def versionText : Text :=
  "stencil 0.1.0\n".toList

end StaticSite.Command
