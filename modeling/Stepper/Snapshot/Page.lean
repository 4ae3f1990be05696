import Stepper.Session.Views
import Stepper.Snapshot.Html

/-! A session as a page that stands on its own: its style is inline, it runs nothing and its controls are
disabled. -/

namespace Stepper.Snapshot

open Numeral

def styleLines : List Text := [
  "    body \x7b font-family: monospace; background-color: #222; color: #ddd; \x7d",
  "    .container \x7b display: flex; \x7d",
  "    .panel \x7b margin: 10px; padding: 10px; background-color: #333; border: 1px solid #555; \x7d",
  "    .highlight \x7b color: yellow; font-weight: bold; \x7d",
  "    .used \x7b color: #6f6; \x7d",
  "    button \x7b background-color: #444; color: white; border: 1px solid #666; padding: 5px 10px; \x7d",
  "    input \x7b background-color: #444; color: white; border: 1px solid #666; padding: 5px; \x7d"]

def highlighted (row : Text) : Text :=
  "<span class='highlight'>" ++ row ++ "</span>"

def codeRow (line : CodeLine) : Text :=
  let row := column natHexUpper 4 line.address ++ ": " ++ Html.escape line.text
  if line.current then highlighted row else row

def codeBody (s : Session) : Text :=
  if s.initialized then Text.join "\n" (s.allCode.map codeRow) else "No code loaded"

def codePanel (s : Session) : List Text := [
  "    <div class='panel' id='code-panel'>",
  "      <h3>Code</h3>",
  "      <pre id='code-display'>" ++ codeBody s ++ "</pre>",
  "    </div>"]

def registerLine (row : RegisterRow) : Text :=
  let style : Text := if row.used then " class='used'" else ""
  "        <div" ++ style ++ ">" ++ row.register.name ++ ": " ++ shown row.value ++ "</div>"

def stackLine (row : StackRow) : Text :=
  "        <div>" ++ shown row.address ++ ": " ++ shown row.value ++ "</div>"

/-- A list of lines in a panel of its own, or a placeholder if there are none. -/
def linesPanel (title id placeholder : Text) (rows : List Text) : List Text :=
  List.flatten [
    ["    <div class='panel'>", "      <h3>" ++ title ++ "</h3>", "      <div id='" ++ id ++ "'>"],
    if rows.isEmpty then ["        <div>" ++ placeholder ++ "</div>"] else rows,
    ["      </div>", "    </div>"]]

def registerPanel (s : Session) : List Text :=
  linesPanel "Registers" "register-display" "Not initialized" (s.registerTable.map registerLine)

def memoryPanel (s : Session) : List Text :=
  linesPanel "Memory (Stack)" "memory-display" "No memory to display" (s.stackRows.map stackLine)

def inputLines (label id : Text) (field : FieldId) : List Text := [
  "        <label for='" ++ id ++ "'>" ++ label ++ ":</label><br>",
  "        <input type='text' id='" ++ id ++ "' placeholder='" ++ field.placeholder ++
    "' disabled><br><br>"]

def inputPanel : List Text :=
  List.flatten [
    ["    <div class='panel'>", "      <h3>User Input</h3>", "      <div>"],
    inputLines "Register" "reg-input" .register,
    inputLines "Memory Address" "mem-input" .memory,
    inputLines "Value" "val-input" .value,
    ["        <button id='set-button' disabled>Set Value</button>", "      </div>", "    </div>"]]

def head : List Text :=
  List.flatten [
    ["<!DOCTYPE html>", "<html>", "<head>", "  <meta charset='utf-8'>",
      "  <title>Assembly Visualizer</title>", "  <style>"],
    styleLines,
    ["  </style>", "</head>", "<body>", "  <div class='container'>"]]

def foot : List Text := [
  "  </div>",
  "  <div>",
  "    <button id='step-button' disabled>Step</button>",
  "    <button id='reset-button' disabled>Reset</button>",
  "    <button id='load-button' disabled>Load File</button>",
  "  </div>",
  "  <p><i>Note: This is a static HTML export. For full functionality, use the desktop application.</i></p>",
  "</body>",
  "</html>"]

def render (s : Session) : Text :=
  Text.unlines (List.flatten
    [head, codePanel s, registerPanel s, memoryPanel s, inputPanel, foot])

end Stepper.Snapshot
