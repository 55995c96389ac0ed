import StaticSite.Markdown.Escape

/-!
# Coloured code

Code in a known language is written in the colours of a theme, line by line. All code has the
colours of plain text. Code in an unknown language has no colours.
-/

namespace StaticSite.Markdown

/-! ## Themes -/

/-- The colours of a theme. -/
structure Theme where
  name : String
  /-- The colour behind the code. -/
  background : String
  /-- The colour of plain text. -/
  foreground : String
  deriving DecidableEq, Repr

namespace Theme

/-- The theme that stands in for an unknown one. -/
def fallback : Theme :=
  ⟨"base16-ocean.dark", "#2b303b", "#c0c5ce"⟩

/-- All themes. -/
def all : List Theme :=
  [fallback,
    ⟨"base16-ocean.light", "#eff1f5", "#4f5b66"⟩,
    ⟨"base16-eighties.dark", "#2d2d2d", "#d3d0c8"⟩,
    ⟨"base16-mocha.dark", "#3b3228", "#d0c8c6"⟩,
    ⟨"InspiredGitHub", "#ffffff", "#323232"⟩,
    ⟨"Solarized (dark)", "#002b36", "#839496"⟩,
    ⟨"Solarized (light)", "#fdf6e3", "#657b83"⟩]

/-- The theme of a name. -/
def named? (name : Text) : Option Theme :=
  all.find? fun theme => theme.name.toList = name

/-- The theme of a name, or the one that stands in for it. -/
def named (name : Text) : Theme :=
  (named? name).getD fallback

end Theme

/-! ## Languages -/

/-- The names and file name endings of the known languages. -/
def languageNames : List String :=
  [
    "ASP", "asa", "HTML (ASP)", "ActionScript", "as", "AppleScript", "script editor",
    "Batch File", "bat", "cmd", "NAnt Build File", "build", "C#", "cs", "csx", "C++", "cpp",
    "cc", "cp", "cxx", "C", "h", "hh", "hpp", "hxx", "h++", "inl", "ipp", "CSS", "css.erb",
    "css.liquid", "Clojure", "clj", "D", "di", "Diff", "patch", "Erlang", "erl", "hrl",
    "Emakefile", "HTML (Erlang)", "yaws", "Go", "Graphviz (DOT)", "dot", "gv", "Groovy", "gvy",
    "gradle", "Jenkinsfile", "HTML", "htm", "shtml", "xhtml", "inc", "tmpl", "tpl", "Haskell",
    "hs", "Literate Haskell", "lhs", "Java Server Page (JSP)", "jsp", "Java", "bsh", "JavaDoc",
    "Java Properties", "properties", "JSON", "sublime-settings", "sublime-menu",
    "sublime-keymap", "sublime-mousemap", "sublime-theme", "sublime-build", "sublime-project",
    "sublime-completions", "sublime-commands", "sublime-macro", "sublime-color-scheme",
    "JavaScript", "js", "htc", "Regular Expressions (Javascript)", "BibTeX", "bib", "LaTeX Log",
    "LaTeX", "tex", "ltx", "sty", "cls", "Lisp", "cl", "l", "mud", "el", "scm", "ss", "lsp",
    "fasl", "Lua", "Make Output", "Makefile", "make", "GNUmakefile", "OCamlMakefile", "mak",
    "mk", "Markdown", "md", "mdown", "markdn", "MultiMarkdown", "MATLAB", "OCaml", "ml", "mli",
    "OCamllex", "mll", "OCamlyacc", "mly", "camlp4", "Objective-C++", "mm", "M", "Objective-C",
    "PHP Source", "PHP", "php3", "php4", "php5", "php7", "phps", "phpt", "phtml",
    "Regular Expressions (PHP)", "Pascal", "pas", "p", "dpr", "Perl", "pl", "pm", "pod", "t",
    "Plain Text", "txt", "Python", "py", "py3", "pyw", "pyi", "pyx", "pyx.in", "pxd", "pxd.in",
    "pxi", "pxi.in", "rpy", "cpy", "SConstruct", "SConscript", "gyp", "gypi", "Snakefile",
    "wscript", "Regular Expressions (Python)", "R Console", "R", "s", "Rprofile",
    "Rd (R Documentation)", "rd", "HTML (Rails)", "rails", "rhtml", "erb", "html.erb",
    "JavaScript (Rails)", "js.erb", "Ruby Haml", "haml", "sass", "Ruby on Rails", "rxml",
    "builder", "SQL (Rails)", "erbsql", "sql.erb", "Regular Expression", "re",
    "reStructuredText", "rst", "rest", "Ruby", "rb", "Appfile", "Appraisals", "Berksfile",
    "Brewfile", "capfile", "cgi", "Cheffile", "config.ru", "Deliverfile", "Fastfile", "fcgi",
    "Gemfile", "gemspec", "Guardfile", "irbrc", "jbuilder", "podspec", "prawn", "rabl", "rake",
    "Rakefile", "Rantfile", "rbx", "rjs", "ruby.rail", "Scanfile", "simplecov", "Snapfile",
    "thor", "Thorfile", "Vagrantfile", "Cargo Build Results", "Rust", "rs", "SQL", "ddl", "dml",
    "Scala", "sbt", "Bourne Again Shell (bash)", "sh", "bash", "zsh", "fish", ".bash_aliases",
    ".bash_completions", ".bash_functions", ".bash_login", ".bash_logout", ".bash_profile",
    ".bash_variables", ".bashrc", ".profile", ".textmate_init", "Shell-Unix-Generic",
    "commands-builtin-shell-bash", "HTML (Tcl)", "adp", "Tcl", "Textile", "XML", "xsd", "xslt",
    "tld", "dtml", "rss", "opml", "svg", "YAML", "yml", "sublime-syntax"
  ]

/-- Names of further languages, which are known in this spelling only. -/
def exactLanguageNames : List String :=
  ["nix", "toml"]

/-- Whether code in a language is coloured. The case of ASCII letters does not matter in most
names. -/
def isKnownLanguage (language : Text) : Bool :=
  let key := Text.toLowerAscii language
  languageNames.any (fun name => Text.toLowerAscii name.toList = key) ||
    exactLanguageNames.any fun name => name.toList = language

/-! ## Code -/

/-- The lines of a text with their line ends. -/
def linesWithEnds : Text → List Text
  | [] => []
  | c :: t =>
    if c = '\n' then [c] :: linesWithEnds t
    else
      match linesWithEnds t with
      | [] => [[c]]
      | line :: lines => (c :: line) :: lines

/-- A line of code in the colour of plain text. -/
def Theme.line (theme : Theme) (t : Text) : Text :=
  "<span style=\"color:".toList ++ theme.foreground.toList ++ ";\">".toList ++ escapeCode t ++
    "</span>".toList

/-- A block of code as HTML. -/
def Theme.highlight (theme : Theme) (language code : Text) : Text :=
  if isKnownLanguage language then
    "<pre style=\"background-color:".toList ++ theme.background.toList ++ ";\">\n".toList ++
      (linesWithEnds code).flatMap theme.line ++ "</pre>\n".toList
  else "<pre><code>".toList ++ escapeBody code ++ "</code></pre>".toList

end StaticSite.Markdown
