import LayeredFiles.Disk.Basic
/-
Module: LayeredFiles.Bundled
Layer: Bundled
Purpose: the templates that come with the library, as a folder that can be laid over any disk.
Main exports: Bundled.root, Bundled.files, Bundled.overlay
-/

namespace LayeredFiles.Bundled

/-- Lines as a text. -/
def ofLines (lines : List String) : String := String.join (lines.map (· ++ "\n"))

/-- The template of a controller: a class with one operation per action. -/
def controllerTemplate : String := ofLines [
  "class \x7b\x7b class_name | pascal_case \x7d\x7dController(\x7b\x7b " ++
    "parent_class | default('BaseController') \x7d\x7d):",
  "\x7b% for action in actions | default([]) %\x7d",
  "    def \x7b\x7b action | snake_case \x7d\x7d(self, request):",
  "        return self.render(\"\x7b\x7b class_name | snake_case " ++
    "\x7d\x7d/\x7b\x7b action | snake_case \x7d\x7d\")",
  "",
  "\x7b% else %\x7d",
  "    pass",
  "\x7b% endfor %\x7d"]

/-- The template of a view: a heading and where to find it. -/
def viewTemplate : String := ofLines [
  "<h1>\x7b\x7b title | default(action | default('index') | pascal_case) \x7d\x7d</h1>",
  "<p>Find me in \x7b\x7b controller_name | default('app') | snake_case " ++
    "\x7d\x7d/\x7b\x7b action | default('index') \x7d\x7d</p>"]

/-- The innermost layer of a page. -/
def contentPartial : String := ofLines [
  "<main class=\"content\">",
  "\x7b% if content %\x7d",
  "\x7b\x7b content \x7d\x7d",
  "\x7b% endif %\x7d",
  "\x7b% if body is defined %\x7d",
  "\x7b\x7b body \x7d\x7d",
  "\x7b% endif %\x7d",
  "</main>"]

/-- The page around the content. -/
def layoutPartial : String := ofLines [
  "<!DOCTYPE html>",
  "<html lang=\"\x7b\x7b lang | default('en') \x7d\x7d\">",
  "<head>",
  "  <meta charset=\"utf-8\">",
  "  <title>\x7b\x7b title | default('Untitled') \x7d\x7d</title>",
  "</head>",
  "<body>",
  "\x7b\x7b content \x7d\x7d",
  "</body>",
  "</html>"]

/-- Puts the style sheet into the head of a page. -/
def stylingPartial : String := ofLines [
  "\x7b\x7b content | replace('</head>', '  <link rel=\"stylesheet\" " ++
    "href=\"' ~ (stylesheet | default('/static/site.css')) ~ '\">\\n</head>') \x7d\x7d"]

/-- The names that lead to the folder of the templates. -/
def place : Place := ["usr", "share", "layered-files", "templates"]

/-- The folder of the templates. -/
def root : NormalPath := ⟨.single, place.map String.toList⟩

/-- The templates and where they are below the folder. -/
def files : List (Place × String) := [
  (["controller", "template.j2"], controllerTemplate),
  (["view", "template.j2"], viewTemplate),
  (["partials", "content.html.j2"], contentPartial),
  (["partials", "layout.j2"], layoutPartial),
  (["partials", "styling.j2"], stylingPartial)]

/-- The folders above a place, outermost first. -/
def foldersAbove (place : Place) : List Place :=
  (List.range place.length).tail.map (fun count => place.take count)

/-- A disk with a file and the folders above it. -/
def addFile (disk : Disk) (place : Place) (text : String) : Disk :=
  ((foldersAbove place).foldl (fun disk above => disk.put above .folder) disk).put place
    (.file text.toUTF8.toList)

/-- A disk with the templates on it. -/
def overlay (disk : Disk) : Disk :=
  files.foldl (fun disk file => addFile disk (place ++ file.1) file.2) disk

end LayeredFiles.Bundled
