import TargetPicker.CommandLine
import TargetPicker.Host.Launcher
import TargetPicker.Main
import TargetPicker.Picker.View
import TargetPicker.Proofs.Input.Cursor
import TargetPicker.Proofs.Input.Restart
import TargetPicker.Proofs.Makefile.FailedLog
import TargetPicker.Proofs.Makefile.FormOrder
import TargetPicker.Proofs.Makefile.PhonyTargets
import TargetPicker.Proofs.Makefile.Rounds
import TargetPicker.Proofs.Makefile.TrailingBlanks
import TargetPicker.Proofs.Makefile.UsedLines
import TargetPicker.Proofs.Makefile.Writing
import TargetPicker.Proofs.Picker.CommandRuns
import TargetPicker.Proofs.Picker.CountText
import TargetPicker.Proofs.Picker.FaithfulView
import TargetPicker.Proofs.Picker.KeyHistory
import TargetPicker.Proofs.Picker.NearestMatch
import TargetPicker.Proofs.Picker.Safety
import TargetPicker.Proofs.Picker.SearchText
import TargetPicker.Proofs.StartupOutcome
import TargetPicker.Startup
import TargetPicker.Terminal
