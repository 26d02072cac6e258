import Emux.Term.Reflow
import Emux.Term.GridEdits
import Emux.Vt.Params
import Emux.Vt.Parser
import Emux.Term.Screen
import Emux.Library.Run
import Emux.Term.Performer
import Emux.Term.Osc
import Emux.Term.Conservation
import Emux.Term.Frame
import Emux.Term.Edits
import Emux.Term.Trace
import Emux.Term.Effects
import Emux.Term.Erasing
import Emux.Term.Pairs
import Emux.Term.Safety
import Emux.Term.Rectangles
import Emux.Term.Scrolling
import Emux.Term.AltScreen
import Emux.Term.PaneSize
import Emux.Vt.Streams
import Emux.Vt.Sequences
import Emux.Term.Cells
import Emux.Term.Margins
import Emux.Term.Halves
import Emux.Term.Seams
import Emux.Term.Intact
import Emux.Term.WholeRuns
import Emux.Library.Keyed
import Emux.Library.Partition
import Emux.Mux.Layout
import Emux.Mux.Tiling
import Emux.Mux.Tab
import Emux.Mux.Dividers
import Emux.Mux.Leaves
import Emux.Mux.Templates
import Emux.Mux.TreeEdits
import Emux.Mux.Structure
import Emux.Mux.TabRuns
import Emux.Mux.Floats
import Emux.Mux.Focus
import Emux.Mux.Session
import Emux.Mux.Identity
import Emux.Mux.TabList
import Emux.Mux.App
import Emux.Mux.PaneScreens
import Emux.Mux.Borders
import Emux.Library.Arrivals
import Emux.Ipc.Codec
import Emux.Term.Damage
import Emux.Ipc.Messages
import Emux.Ipc.Handler
import Emux.Ipc.Atomicity
import Emux.Ipc.Server
import Emux.Ipc.Daemon
import Emux.Ipc.Persistence
import Emux.Term.Extent
import Emux.Loop.Command
import Emux.Term.Viewport
import Emux.Term.PendingWrap
import Emux.Term.Deccolm
import Emux.Term.Clipboard
import Emux.Term.Selection
import Emux.Loop.EventLoop
import Emux.Loop.Sizes
import Emux.Loop.Frames
import Emux.Term.SoftWrap
import Emux.Loop.CopyMode
import Emux.Loop.BorderDrag
import Emux.Loop.Redraw
import Emux.Library.Spans
import Emux.Loop.Highlight
import Emux.Term.CellTrack
import Emux.Vt.Fields
import Emux.Term.SgrGroups
import Emux.Term.CursorMoves
import Emux.Library.Raising
import Emux.Mux.FocusCycle
import Emux.Library.Leftmost
import Emux.Mux.Neighbors
import Emux.Mux.Custody
import Emux.Library.Recall
import Emux.Mux.PreviousTab
import Emux.Library.Codes
import Emux.Term.Input
import Emux.Loop.Mouse
import Emux.Loop.Clicks
import Emux.Term.Search
import Emux.Loop.Searcher
import Emux.Loop.Keys
import Emux.Loop.SearchPrompt
import Emux.Loop.RowWidth
import Emux.Loop.StatusBar
import Emux.Library.Cuts
import Emux.Mux.Domain
import Emux.Config.Merge
import Emux.Loop.FormatBar
import Emux.Library.Repeats
import Emux.Term.Hints
import Emux.Library.Removal
import Emux.Ipc.Streaming
import Emux.Ipc.Replica
import Emux.Term.Keyboard
import Emux.Loop.Display
import Emux.Library.ShortWrites
import Emux.Loop.Typing
import Emux.Ipc.Saving
import Emux.Library.Arguments
import Emux.Pty.CommandLine
import Emux.Term.Palette
import Emux.Ipc.Recording
import Emux.Vt.Lossy
