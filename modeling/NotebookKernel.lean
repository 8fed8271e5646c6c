import NotebookKernel.Main
import NotebookKernel.Proofs.CommandLine.WholeNotebooks
import NotebookKernel.Proofs.Kernel.Counter
import NotebookKernel.Proofs.Kernel.Directories
import NotebookKernel.Proofs.Kernel.DirectoryListings
import NotebookKernel.Proofs.Kernel.Environment
import NotebookKernel.Proofs.Kernel.NamespaceTables
import NotebookKernel.Proofs.Kernel.PrintedOutput
import NotebookKernel.Proofs.Kernel.Registrations
import NotebookKernel.Proofs.Kernel.Splitting
import NotebookKernel.Proofs.Kernel.TimedCells
import NotebookKernel.Proofs.Notebook.Chronology
import NotebookKernel.Proofs.Notebook.Confinement
import NotebookKernel.Proofs.Notebook.FailedSaves
import NotebookKernel.Proofs.Notebook.Foreign
import NotebookKernel.Proofs.Notebook.Identifiers
import NotebookKernel.Proofs.Notebook.Multilines
import NotebookKernel.Proofs.Notebook.Recorded
import NotebookKernel.Proofs.Notebook.Rewriting
import NotebookKernel.Proofs.Source.Literals
import NotebookKernel.Proofs.Source.Statements
import NotebookKernel.Proofs.Worker.Conversations
import NotebookKernel.Proofs.Worker.Framing
import NotebookKernel.Proofs.Worker.Losses
import NotebookKernel.Proofs.Worker.Plots
import NotebookKernel.Proofs.Worker.Settings
import NotebookKernel.Proofs.Worker.Timings
import NotebookKernel.Scripted.Evaluator
import NotebookKernel.Scripted.Worker
