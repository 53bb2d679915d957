import CobolExercises.Opgave.Opgave9
import CobolExercises.Opgave.Opgave3
import CobolExercises.Solutions.Opgave8
import CobolExercises.Solutions.Opgave9
import CobolExercises.Solutions.Independence
import CobolExercises.Solutions.RensNavn
import CobolExercises.Solutions.Opgave7
import CobolExercises.Database.Restart
import CobolExercises.Database.HostRoundTrip
import CobolExercises.Runtime.Fetch
import CobolExercises.Precompiler.Storage
import CobolExercises.Precompiler.Missed
import CobolExercises.Precompiler.Sent
import CobolExercises.Precompiler.Rows
import CobolExercises.Lib.Cut
import CobolExercises.Precompiler.Host
import CobolExercises.Precompiler.Ppbuff
import CobolExercises.Precompiler.Statement
