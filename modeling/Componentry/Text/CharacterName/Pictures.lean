/-!
# Names of characters: Pictures

The names of musical and mathematical alphabets, pictographs and tags
(Unicode 14, code points 1D000 to 10FFFF).
-/

namespace Componentry.Text.CharacterName

def pictureNames : String :=
  "@1Du53gYZAqa0E;N!9$1dDASEIAd)HdOXEIA|3e>3dVARm2bKATHISTIdSYqpkIKId~IdYPOKRISISm7[REMAm7ZAPESO|3db
 EXOdy<yYd^AdAmwDROFOm9xSYNEVMAdTHITAdOLIGON:FdbGORGONdPSILONph_Mm1xVATHYdISm82KENTIMAdb^AdSAXIMqnoP
 ARICHONdSTAVROS APODEXIAm^qIm<Hm^aIdbm65RMmPQTHEMAdKLASMAdRmPQPIm2m:FdTINAGm8PNATmDXn12dSEm1XYm65:F
 eMEr1BmIhUdOYRANIm=amCeLEMOIdDYOdTRIAdTwGcXoGsATmXQms> EXO+4d]0:FdIMIFTHORAd|V:Fn8]AVA|VdPELASTmoFF
 Im2=KONTmVvCHOmXqmIgRAPmS3~Hmey~IdICHADIxbXmtIs8ma0m<^ ALLOdb|VrXnGGm<iTAoNLNTHm2on7h+4dbnAudbmzFm@
 1nQdKOno1m3gOm3Umb:m3WmYYm@A^A+4ANOdcnIgYnR8In^AmH@m37I SYNDESMOSnoPRROImDLm3DONdELAFRnaQIdMIKRON m
 Xao75mAwnLwdbmvuOs<qNdoEwKENOnCoYGmvPIm:m~HdETERON~HdKYLm5_m9lm3V|V+4dEKonFPmB<n[1+4oLqn?^m8@PEGERn
 eGm3tXImTHnqpTROMIKOmRMnPUmP@m7@m3Nr_1ALEm48m:pm4Mm8WmPrm7am3Wo]1SYxvPmmjwm3;bmh<o::+4o:6TIn<e ESOe
 ovFm4I APLOUNm2mS KAI oWTSo5Xmb7ENDOFONONdYFEN KATOenWFokGoaK m48>3o4qoKMenzRe+4oldLId>3oUVm2<TETRm
 49wmCLdLEIMMA ENOS wUX6eDYOm2`NebTRIm1VocDARONeIMISEm9mmmkNnztePAREy?WVENON ARvcCkAfpETDIm9Hm8@m8Om
 bhgANOm:>mVDpcSAm1GuTyXm2Nm1kAGOGr[oLI ARGIem4iTERm1xIpHeRIAeMESIem@0m1Fm7>m;Cm4YdMARTYRIA PROTOS p
 oXSevX8PebDEYnLTm3Umk=TOSewFAFNIASeTETARm;xfbLEGEm7Jm22PLAGIOSdISAKIA TELOUm:=p_iOSdcomFdFANmGkIS n
 AdmEbMONOm2ODmIzmWPVARYmW>bmZ=m3smJ2 mS6nAsTHo;kN NnrEfDInt0ENARXInt`]0VOUn5:nq^q3hONq7;ml5UmHan^kI
 ATONIKI PAfptweNAmk@m6KDIebSKLomrm4kONm6lKEfZOfNInUOeMArdNNnkYMA mfRgmjmdFHTORA mBnm9<VASISd]0m59om
 qFIeNENoMFm4XA ZYGOSeKLITONeSPrl>d]0I YFEn9UARpuLoB5moTMONmyqp_XmLYdm9:RIm8edbDIm4Hem=XoZe oTaDODEo
 u0ebv>fXMp68r>CebDIm4<EXnmDm3GOKTOdbmHCm@um?5m?9m?9GEn6AmT;mAidvkhTImCeqY6IfMEGALIe>3epQJEOSdbSIMAN
 SISfDISIMOUfTRm1zo0Ym2MeARm9gm7`m7jdmS5A GGdDIFTOGGmRLUdp4<pVHRKTIKO PAeVOUeGtkpcKEeZOeNIrFrMESrG<m
 3tnbRm3ybq^bbpQ_@1D100a;N!9%NBAu`A2v0mj!Tcc*Ycb?4xvBH!Hvd9LEt<i@m2o$Ic.MSEGNOcDA CAPOcm34CODAm7nE
 D woq1t>mayE6kd!VcBweJe!ScCAESURAcBvUc8%YcONtvGhsm0FFcbTWOm3Scvl3wm66uZe9m2PIVm4mSIXm2>m1wSTRtpBPRE
 TBOARDm;Tm51cG CLEFeOTqia ALTAftEuTcCm5Ocbm6CvfBym6ftt0UD129c;L^MqE>c!M[2dFLATcm16 w9[gcwOpym35[2m1
 i(5&P[2em9hCOMMON TyHGsCUTcmIndmIiQUuY]<Enlom5Fv@E_ mK3bWHOLEcb$TcbwTfxcb[4cb~0cb~Ywj;GvW]3HcX<3w7f
 l$RXc$W<3!Ue!Rc&X<3UP!Uf!Re!Hm1jGm1j5m1iUPm3sg!Rc,9m<<qguNGLE-vfk8<3m9Yc)4mFTVOIDc<3!RcNULL<3twuCmI
 [9cmYh;OmZ>mZKmZK&Vw0`sbSPRECHGESANGdTREMOLOnn<INGERED m4a&VAUrWguQaVOnDDGt@M_=HBEAMcb)Ac=HTIEm2?SL
 URm2OvnX]m5@&V(XsI_CCoWsTENUTOm3VISopsqtBm6Dm1k-m:1ACCENTm3XLOUREcARPEGGqTHn_t&VDOITdRIPdt<x:SMu_=_
 ENDd!M]Adb&0cRINFORZAvCu<UBITOcZcPIANOcMEZZOcFORTEcu4Xjm80DEm2bvXCS;O.VebNOcTRcvXAwb%Tm1x.VdUPc:Rr`
 6Kom08dm2NtAeFAUPTSTIMuS]4BENm2^w]Kmm2`wnGO.Vc&V!5BOWyI`>Hq`mCdSNtRj>ZZImiacPEDAL!Sm7knV0m3CcGLISSm
 a0mlf!AnKPNAILScDAMPdALLcMt:Hicv;nRpCVVIScSEMIm2N!Ud!RcMINpiD!Rm5`m34m5aFUSm2>m>6_2oT@dbuN@0FECTAcb
 mB?bmBRcbm>Vm4Jm2`TEMPUS m<;p9JUMsv6LnmEE_2gmBRg_2Dm<8Um5o-1dIMm<6m<7hm;Xo7dCROIXcGREGOo_] pY<dbFc$
 WBcVIRGt=kHATUScCLImmzCAp@um3eMAm1wTORCULUScPv`gYUSdFLEXUmeXm9xm88pHTUPINm:<xh:PBPw:ZmScKIEVmL_nW6[
 0d!T;OdREuTAOVE!SdovIdbuD4q;OonF!5gUPd*9m3:FLqnOSORIyJ6E@1D200a+Py3ga=9SYMBOLnwQm2NnwQ4m2q50/4bINST
 RUowLm:v1m844m2R7m2R11/3m2b7/2m2a23/mD^29m:R3m7O36m7P42mF[5m2A7/7a&V+P;NwaR6dwaR8dwaR9m6ut9LEmfNE0a
 xofg<4tGduwo3AtGdU@1D300wSxGKabDwUz2LYcbHUMANcEARTHLYv]1jm4Z:KamStm;4%3c(K$oTaREDcBxFp3cvZWu!Ccy:tS
 RvbkyApG_Tv[7uvn1eING.BcDEFwg3tNESS OR DwQXem8bDIVERGENCEv]FXm8@v[>^PENETtG>LACHc]Pv]GM;0v]Nhv]8FAD
 VAmA6RELm>5wdR8Tm49m3SJOYmXavc59ENDEAVOURcDUTIEScxoRTp_XCISmVxc)VRESv[KzPACKmFeLEGm3BCLOSm8BKINSHIP
 v[`CcSTRvG[wcPURITYcFULmaAmPADmf?LAWmlRwj9kcwqkxcGOv[qlENwfpQcSTOVEwUA[m?lENw8xcoANcwL:wcRITUALcFLr
 P]cVASTn7ZWASv^F3mlSYc^McyCDGcUm1GpJbISHmAx(Y*VcvsHHEDm>um`a INcMASSn6ACCUMvd@7EMBELLm>8DOUBTcWwZi0
 Svg[;v[tWvl54rFav]o8mJmMm1gEXHAUSvpL_v]jHvn_QAGxfLumNVv]22vnZ[FAILm1gx<J^mO[m8Qvd@6ON&8nn;v_>PnR8vd
 gyURneFSTmaQoQo60an7WmdcROD moTwPAAv:CYcTENSm7?m7Ia,6y;zdStL:Eam4nc!Q@1D4om@R)V!DyZcRyZc[yZc[c!Cm;l
 m;rm;rb;HmGsm<Gm<GmGzmY656m<gmHp)VmI6ukNZukNdukNdd!Cm;lm;rm;rb*1!Dq3c49EmV4m2<A2mVVA5mV4m2=9mVXm33E
 mWJme6m=sBBdFm1hDmrPm4HC5mfamfn*1mfhmZ;mZ;mfnm;rmfnFRAKTURnM[@1D507nBp50DnBTm4i16mWem4IEniZnOvni[Cm
 Jr3BmJu40m=um3S6dOm1hAmKP52mKQmKQn5Ymh^n6Ymuxmuxn6`m;rn6`;PoS3mU^mU^oktm;rm;r)Vm`cmT7mT7m`jm;rm;rco
 jYm<Gm<GmGzm;rmGzp7bfBfCfDfEfFfGfHfIfJfKfLu5q4OfPfQfRfSfTfUfVfWfXfYfZe!Cm;lm;rm;rt=gqwgPqnGBn;^n;^n
 GEm;rq7zC.OIeJ@1D6A8bnJXyPg2yPg;yPg;)U!9dyPg;c[Uc!CmAvmAvdyPxrmAvZ?5c)O!9cb)Ucb+Qcb)Rcb)xKrJm^>mYum
 H?mYvmH?mYvmAvmAvmYvmYvmYvqw7(Iex@D9*Qe)Oe:Ce*He)Ue(Te+Qe.QeMUeNUeXIe+Tx@zXmZ<e*Be+8e(7x@O[e.Ce(Gd[
 Ud!CmApmAvmAvmZ<mAgmAumZ<dmZ<db)Udb+Qdb)Rdb)Cdn9tP)VmZKmH`mZKmH`mZKmAvmAvmZKmZKmZKdn9uf+Kf*Sf*Qf)Of
 :Cf*Hf)Uf(Tf+Qf.QfMUfNUfXIf+TfPIf)CfmYgf*Bf+8f(7f)Rf)Wf.Cf(Ge[Ue!CmApmAvmAvmYgmAgmAumYgemYgeb)Ueb+Q
 eb)Reb)Cene6!DyS2:cb!C@1D7CEtS_Pxo[Y;Cm7Tm7YPm7Rm7Yc)VvBBZt7s?pc6m@Hm@OaSIGNwZri(0%Obb+0bb?Cbb]4bb+
 Bbb:Nbm5N*Fbc+0bc(0%D>Wc%O)5KNwjT<d?3d,4e$Mb+0%uPz_Em:n!8m:mm2O*Fem:bSe,4wm;:,4!8UPd!8+NfmE>fb!8f?3
 f,4e;2bdm=?m<i$A%Ocm7:$A!8d!8%DbdmCXC%D*Fe*F%D*Cem2^,4=A%D*3mEo!8,4h+NmGMm4jm1wm7:,0e%D?3f%4f[If,4c
 %D+VmAycm1V+Nm:<h+Nh*FcmIV[I%wkU>%Om2]mN5+N,4m8@ec;2em:],0fc?3m:=?3m:B?3!8cbm4i%4%OgmGZO%Dt@3sD.BmO
 ZfcINec%4maQmBmfm6Xm1zmB<m:rmCRh;2fmE?mO>,4b_Q!N,GemiQe+NfvhGNb_Om4i+nI2m1y*Fb+Bm2Nm;2Q,G=AcdHEELcm
 2o!N*Fcfm3dbm6hem6jmuZb?Cm2of$9be+Bb]4m3TmAl,4gmnNgNO%Db_Qc+Vw3hFFvH?JScmAGm7:cm2QFd,0cmVv%OnBY%3em
 >U*Fd(Pb_Om:NmAVcmLY[FCURLICUEb[Fb?C$9b?Cc$9m8Qb%Dc$9m9hbNOm4j,0m4ib_P$9b_Po=w]4mBH+B$9dm2?c!m@qmA4
 mMaTOUCo>m%Od+V!8$2oL4m2]ny=d+Bbd:Nb+B(Pm5d*Ff+NmsM(0(P!5eRIPPLE*Cf<Rew2NDS%4dUPccoYNo]2]4bcmD9(Po]
 V*FdmLIES%Dd%DbcoiHm7Z%OmJM:Nm2L%Dm0q.Bg%Dm6GmAwm9hcmV9(PmV8cm[3m4Km6XZbeoZf$2!5moT2!5mBL$B!8b:Nm3B
 o:EO(Zm81UPdmSy(PmZDm>w8e+Np3Md%OmYW[FmHQ$2mNx_Pm2oONb[Fm2N.BfINf>Wb?Cm3emc`m6Xen45!8mTI!8m2^UmL8p@
 FmPgp2Rb[FmX@m65%D(Pd(PdbnFC_P!8mKDo=g8mGb!8mN9mH@+0m3e*FoY>m2M+NgmD9m36.BgINnRi+B%O,4mbwo;[mAVm2r%
 D(Agm<XFfb%OfbBOTHfpyxe,q9gCg*Fe$Beo?we.K%D.Pbf_Om?=m3c>We$RmoU%De$9mE_e%Hd%De!CmqanWxeINn6Pb(0oxtd
 *3(An=ko_ndpiwemYFemYwd>W!I,Gdc$Adb>W!Leb!Nd$A!NnHBb(0onhbnuv%Nc;Lc+VbGRASPm37xG53m3GBRUSm9LRUBm2ax
 00d t@4ISm49QUEEZE%m:]b!Cc%H;Lm1xSEQUENTIALbFLICKm7Om7Ym?> m97+JbMOVt>UV-n3p UP!5%He!Cdm;Gy]jOm5N+J
 %Hf!CcoyX*3waYQb:Q?A]Pbc:Pb:Q%N*C!Ce%Ce%He<0d:5;7c!M*Cm2=d+Jem3t(Zc&0*C=4m58BEND!Cd%Cd%Hc,Em2PdROvk
 N_;Bm6j)Mm2Q>Zm2QPEAKSm36bTRAVEL-WALLunhN^0%Nd!Md+Jc^Zm2QSHAKt>tJRM vGT^%Ne!Me&0mo:DIAwjdGAWAYmPv<0
 cTOWARDSm4@+Vm80miim83m4?b:Pmqomqpmqp=4mr<mpQc;BmlemlrmlrFLOORmltmj^^0mm4b:Q.K(5mTOu<?cuHxTm56tG8EQ
 UARTER$R!Cf%CcHUMPnJ_8mp`!C!Mc+H.K!Mm8rf%He&0m2Pc.KTHEN*Cc<R(ZmEpbmQVc!Mc*5b:QnCs.K,5w_rg nNPcdmH0c
 d,8cd+Hbdm;3d!Mcd+Jm[C,5q_DTcmPbcc,8cc+Hbmf?cmCscm8b+H(APATHmNib:Pm<i?Ym3cHm<zm34!MfboEx&0fbmaQm5@%
 Nm5?m7>c+Hm=Sbn4um32mHDmD<BmDABmD=mls&0gmD^BmDXmDhBmDbBmDbnwWuqANINEDn>dyD[Z+Hw8=Fdm8am>Tn45m=@n47?
 nVPARMnKo%Neb%CemKRm1wb:Pm5O,5n9cm6egb%CmVDgm7Zm2qb:Q:5$RnBj%Nf!Mb:P:5m;w%Ng!Mp?@Mo]qm6Tm2]m6]wP;m*
 6mT9cFASTcSLOWt@tcExO20XEDcSIuPC[EOUSo5wEVERY sB5tHPQGRADUALb,2cRIMc:Q*CdTILTc:P*Ccn^:cb:Pc=4$Rb$6t
 SzN_4NOSE,0m9FINGfUP OR!5im3UbEYEBROWS*CUPd*Wd!5bbDREAMY m5sm4j*Wdbm7KUPbFOREHEAD*Wc]Pc?Ub*R$9cq@3D
 c(YmB] BLINK%Nd;Lm6uT$9cx:d:c$T(Ycm2<NING=4m9WWINKm1wLASHES UPc!5w4ZutAvlb|4*Cosgm8@GAZEp1Qm5t|4<Rb
 m7Ib|4wG<GbCHEEKS PUFFEDc*WcSUCKEDbn<5 m6V$7d!8d$MbEARSbmv>mc_WRINrLecWIGGrNPAIR BtD9G.Bm@1tC7am4X!
 CqSwScm65btJZ5 INHAvwDPm1Vb*V(Y*Wrki]Pcx09wd?Ud$9cx0=om2`$9$Rm7Z?UdOVALe?UeYAWNd_9m2Ou9CwSm7]ni>m2]
 m`^LIPS Px;[W|Tm3B$N$A$0c$0$A$Nb*V?0m`ppwjb]wk3cKm_vFARcLm2o m@@cb:2+Vdt8Pd.P*Vcm16o6aqp:S w8sTSTmz
 Hc%3mALdm9gbTEETHc=4cON]Ae=4dmCce=4cBITEmFTreTJAWbb:PbNECKbwuXyEXCITr9dbwz=U HIPrAcNEdtE`jSbrNU m8Y
 mQgbdnZ_m?0oEj,1WAISTbTORSOr^a*Cye90c<Rr3om6wnkO TWISoSl$0BODYmALmIgJOINTSbLIMB p[HnZ9v]wg-1/6b?Abw
 gqCmIm:Zbm4nmGbm4M HEtE>@xALvDEPTHc,2mrFcmRncmHaS DIGITSt_TSv6yl4@1DA9BbFILL MODIFIER-2/m5?A1bo44m6
 <7cm2pv8KC@1DF0vKGbuisE!vY5[d%Ayfzq$Vbx:z?Km3fuinFm4ILEZHuikjm4yd%AENGuihxuihedTwYoXc!BuiOgm>5,FwEd
 xh!F+Ydb$VT!Am8@yfN:yfNPmNFKvW[Y[DujVZvVTccmPb!FdcujKwdmLXdcRm8qm4XTESm9WdxNKZbm<m)KdcIujSycOm6em8s
 ddCduir@E000a&VwGqsBAwG4CwG4Cm=O8wG4;wG4CwG4CwG4CwG4CmE>1BwG3rwG43m7J23wG2mm3C6wG2ywG3=@1E100aNYIAK
 ENG PUACHUEtdEt!BMAe(WeNTuH6<HAeNAeXAeNKAeCuHB4SuHANNCAeNTSAeKAvPTiFeNRAeVm4XXAem0qFuIu<Qy6UNNQxb:8
 Xm2LPAeDLm1gLAe$LeMLAem2LGuZuyAeAv5_qu`YCu`fkWmV430t_XjBm1XMm1XJm1XVm1XSm1XGm1XDd!E(E.RfTpi4fobsfAN
 IMALfINVERTEBRATEeXW XWd,Qv`sfmI64x_>4t?1Ym8AEd_WNYAJd%4Cn1B290aTOTtbBktb;rKvbtBtfAv%EtfBZJAcHuE6lI
 cb]JcIUm1WUcEm1hEOm1WOcAm3TAb!E.8&PmGZC0aWv56PuYs0mHQCmHQGyPa9UcLmI7PvQT7FvcNoxX_gxvoQKAuHkERmSC%Gm
 OJEcImTiUcLLHxtcARAcy0XiANGc:ExhNXONcEueV=%FcUENcYIHb&PvqP1PNIcKOm0rNItcKdtfcxE2FFbNGUN!oTP7E0xxR1H
 YAcHHYUm16Im16Am3SEEm1Fm17Om:=8cGURAGE HHWm7JWm9gWm8QWmAXDm7NMWIdMWEm4jF0dQWIdQWEEm16dBWIdBm2mKWIdK
 m1yEdGWIdGm2mGWEdFWIdFm2mPWIdPm?]xen_ENDE KIKAKUI,QM001 KIdM002 KAm1g3 KUdM065 KEEdM09m1wdM076 KOOd
 M048 KOdM179 KUm;34 Wm>U5 Wm3S6 WUdM126 mL8M118 Wm1h4 Wm>V5 Wm>T94 WUIdM143 WEm>e61 WVm1w49 WVAdM13
 m1wmKs07 MINm1w8*mS209 MUm3R59 MEm1w94 MONdM154 MUAm2<8m80m6E10 BmCB11 BmSs12 BmSs50 BmcN7 BmSs03 B
 mSs138 BmU_13 m<I4 m<95 m;s63 m`[00 m1V65 m;C47 m<j7 m]i131 INdbM135mdc5 mPA78 mOm9 SmCR20 SmCc21 S
 mCt2 Smte6 Sm1g36 Smtd79 Smtd6 SIm;35 Lm>U6 Lm3S7 Lmn_84 Lm_E73 Lm1g54 LmS353 Lm1g10$4m5`16 DmaQ7 D
 mab8 Dm>U9 DmLz80 Dm<j81 DmLy22 TmIG3 TmIG4 Tm:m91 TmIG55 Tmn`4 Tm<Xv6_Lm<Y8 Jm<Y9 Jm<X30 Jn:97 Jme
 J3 Jmyb0 Jm<Z3 JOmv_75$4m:m1 Ym>D32 Ym>E3 Ym>D09 YmJn80 Ym>D41 YmWK2m1wm964 Fm<Y5 Fm<Y6 FmWJ78 Fmqc
 5 Fn5;3 FmJn88 Fn5;7 Fo=F101 FnGF037 Nnsz38 Nm3u9&HmYV7 NnLu169 Nnsz76 Ho7t1 Hm>e86 HmIg40 Hnoc6 Hm
 1g42 HmVEm5_mKS3m7Jne428m5om;c53 HmJ<130 HmJ=87 HoC]2 HmJ^93 HmJ]04mG:m8190 NGGmM?3m2<mhJ82m2<muH15
 m2<n9346m2Mn=:m2=mvam=Onbt9m=Om[B27m=`m@16$4m;f0m2Nn_s3$4m<<5 mKB111 mJm168 mJM90 mIy66 GUmd367 Gok
 h4 NGoJv5mGJmyBm2<m^q68 Pm^N99 PmLy50 Po2U1 Pnrem1wmP02 Pnf<6 Pn2I5 Mp2162 MBm]Im1wn=l7 Mp2abM188nY
 2m5Nm>um1wp4N74m2<mR]m9VUoiI1$4m8R05m2<nHN2m2Lp2Q2 KmU0m1wmU>74 KmUO4m1wp?@8m2<mp:m80oh4m48n9C4 GmV
 E56 GmVE48 GmVE93 GBm>67m2<mD81 GBp9]0m2<mVu1 Rmc=3 NDngQ9 NDm3t5 NDn;O1 Novy1m64m?k67 NDmtu4m2<mOk
 2 NokD19m1wm<849 Nokg34 NJnSP2 qGJ185 qG;51 Vm9V73 Vn>rm5Nnmf4 VmTk7 Vm<XmFeYoUW58 NYpqw0 NYo;l9m4H
 nX^6m4HONr8LC7v2MKtEpE&V%ITEENSeTm16tjc[e[8eb$Xeb%7e_X@1E900aADLAMwN1hIFdDAALItpCGMIIMdBAdSINNYIIYH
 EdPEdBHuoCcEdFx^8=%5dYujz[&Hd(tnZyUdJm<i)WxgNnAFdGuN49UdNv[tG%GdnE:ZALdnPm$8b!CmL1mL7mL7mL7mL7mL7mL
 7mK2 vhd<b$DuQGO(Fb)8(1bcGEMwOa<b)3b~E!Smv>uOOCsuO95Eb$P)0!Scb)J@1EC71aINDws`:YAQufb=nIQup27v3gGu>X
 ?up27m8?up27up27LAKHm17ANcm1V!Sc%Iw7mTdm1GANduTpft8cNtOd5~Ncv`pxc?Jm@1*5m;e$X(6c*5mE>n2jD01awp^:ANm
 rUmrUmrUmrUmjUmrUm8?mrUmrUcMARRATANc*5%Imk<mkKe$Xe!N%7ebm4XI(6oe0uh8>eu>YV@1EE0vByXRyby5$Uc.Mm4j5y^
 X6$Lc)Lc$GybeD)Dc(Lc)1c)6c)Ic)Tc+Gyc8s%Vyc6v*8yc32+ZcybEB&3dyV5_mCs21c$P*Nd$Um334d(4m1x7d$Lm1x9d$Go
 Y>&7d!4m<jDd(Lm>56m>h34d+Gd*4d:1d%Vm3t9d*8m1xBd+Zm1w42cwDgnmFg4mDm4mDim1xBd&7m1xDmF8m7;5mFl5mFem1x7
 mFh5mFi5mFi5Dd.O&3m2MFem<:61t<_zmd76md66mNDd)LmcMm5qCmd4mdA7md?7mLHdZAHd+Zdn28m4YEe)1m1w8xkV]PED$Ed
 mJ^d.Md(4pYZ.ImJ1m97Bn2zmJ;d)TmINdnK>mI9mf1A1c;CmD]m3d5mEMAmEMmEMmEMEEF0c)GvHdEvDukdm2]mH@F00ueCJJv
 `i5LE&S>Xcb&Kcb&Fcb&CcRED]Xcb=Rcx4H@JOFv<X@ACTERStn5^cpyTpyepyupz:pzJc!3m:NwGH=m9vm9v]Mm8Zm8`PLUMcO
 RCHIwG[sCHRYSANTHEMUMcSPtTe9UMMERcAUTUMNcWIwIRqJOKERc;0mgD30abDOMINOmgE$3cy`G[-00-00/6m4A1m4F2m4F3m
 4F4m4F5m4F6m4:!7;0cVERTICmMTm3j1m3o2m3o3m3o4m3o5m3kmJsmm8A0aPLAYxLQwARD;0cxB8:x1oanHGn?vc$XccJACKcc
 *Tcc,Ncc+RmCBB1m@4HEARTm@=m@?m@?nu4 nH<mB=CmBADIAMONDmBkmBlmBl!RmBADmBACLUBmAfmAfmAfUnlqFOOLcTRUMP-
 1/8m2@0/11@1F100asP8xx`>&Nbb!Jbb!Ibb!Lbb!m3RQbb!Ybb!2bb!Zbb!3wvo;%4tM^[be.Aa%4$O!A.VxNwmvGuL!AwH11>
 1a_1vEHjtQfIx;oW<K.TxjITEDm?LSa%4;Hm2_CfRbCDbWZz5rBLEFT!9a(3mHOmHOmHObHw;^JSDbSSbPPVbWCa.Ax<A9tQwgt
 QwptQwpa)5MCySDTDbbMRa%4CCbCmo<tXrGt_`uwxfJmGjmGjmGja;2m=uPm@QICcPuTTbBcWCa$WDJa(3CLbCOOLxsf6bIDbNE
 WbNGbOKbSOSbUP!AvFwLVSb!LDb?KxAYSb!IKnYvZb!Q:T!Jx=Mk~2:T!Ib+6Pncy%7&Qbv]Z_bHCbHDRbHI-RESbLOSSLESSbS
 HVbUHDbVODaMASK WORK!9nuTE6z75BOz6m0!9nHHnHKna[$W[HHOKAa(3;JKOKOxvXLF210bCJK UNIFIED IDEvpn3-624Bdm
 3H5B57m3J3CCb;JDEm=Nm=^4E8Cm:D91Am3I89E3m6^29dm=6A4m3I6620m3I7121m6]59m=6524Dm3JFmMH18Dm=7B0m=71m6]
 7D42m3J51FmZDCAmJ58Fm@I43m6]6F1m^W295m3J355mhC00m3Lm@H904mxR5DE6m9p2mhC3F3mFn0nGo8D70mPY5m9o798n3w7
 A7mJ5408m=6E8m@I709m3L8mxS3nTM27n3w55Bm^V914Dnz240pfL noimGB2CfmucfnvDfo8a8m6]70B9fmkwm6]6D7m=62DDm
 9o557mT850wD?Bt[jkTAGEcACCEPTm5o60a<x7?_FUdLy2eytTNDSHUwPJudCAI@1F3v3_HCLONEaFOGGYa(Y^6aNz:?BASTARS
 aSUNRISE$AMx3eNm4=aCITYxAoP AT DUSKm5_SET$ABUILqyqSx5EkBOWa?XAT mCCa:4+HaVOLCANOaMILKY WAYa:KGLOB
 E EUROPE-y`[OcAMEm1gScASIA-xTY8IAam9W!m6UDIANSaNEW,9!9acWAXING?1ac=P(5m3V GIBBOUSac(Km4HNm4Ox9:zm9X
 Nm=0?1,9mAzA$6adm@Aem8Padm>4:0aGtHjG*KabwPOcINGwkNVMETEx6;[OPLETx9SNc!A!Cx60ycbx6:Eex:UGacm4kSNOWc_
 VcTORNADOn<Ta>XBmEq$6x8rFDOGaTACOaBURRITOatKpNNUTaSEEDLmL8EVERGq_4>TaylymDxG8fPALMaCACTUSm@APEPPERa
 TULIPm?JRRY Bq[BOMaROSEaHIBISCUnPnFLOWERam6yEARsn6MAIZEwP=gaHERBa!NLEAss4rUZaMAPLE m3sabFALLENam6ft
 J<U IN>XaMUu_;sMaTOMATOaAUBx81FEao=wESawPo]aWATERm2Ntr;>Rm7JLEMONaBANANAaPINEAPPLEaRED m2>b=RaPEAm1
 7CHmc>Ix4X1AWBmeyaHAMBUwgYhLIt7R0tbZyAaMEAT ON BoHXPOULTRY,Lamds Cp53Rb:GaCOOKED miruY<LY!FawQZqmb6
 BOWLaSPAGHETTIaBREADaxVzbmN5ROASpDmwQT< POTmiPDANGOaODENaSUSHIam9VDx6[kMPx=_P CAKE!AufkP DESIGNa;Sm
 QiEAMv=xVpTmCEam4_DOUGHn_qmW:IEaCHOCxXJL$YaCANDYaLOLLIPOPaCUoz>DaHONEYmPatro1mIVaBENTO)MaPOTmrVFOOD
 mAgxZQ`s>mFwSNaaTEACUPvd_KaSAKE BOTTLE!FCUPaWINE wnK8COCKwsiaTROPw0dJDRINKaBEER MUGaCwJna m3wSaBABY
 mAYmJ4!APm^oamG=APOPPxV3;RKaPOPCORNwcC4aWRx1N0 wI@FaBIRTHDAYn1taJACK-O-LANTERNaCHRISTMAS>TawRvO m4=
 aFIREsvVm2B x5]VRx5[rwI52my0o]bCONFnYB:opsv6RU>Ta;2FLAGSo7C DECOwmdL?EDOLLSaCARP STnJ8ERa>XCHIMEa,9
 VIEWmbWERoF]YawIWO SATCHELoReDUm@A CAPa)2!A:2ONxL1hOUQUEnISoucSq=NITARY MEDALaREMIx9ZHmtE;N^B!Amo4o
 RTUDIO MIvGNjocfVELx9RymbwxFeQ KNOBSx<M0 x>QR;Nx<O;cx>QuFILMvHk=SaADwY?0 TIr`gmh[OUSEL<XaFoo]SvHr7a
 ROLLn<eoS;RoIpmkmPOnmTm32amS9MOVIE Cmw4AaCINEMAaHEADm6VARTIST PALx7=B&UHATwnu=S Tn]umNFaCLnbsRvJ^Fx
 <IFFORoxCARTSaVrhg GAMExJ`5HITaSLOT MACHpXuu1WNARDSam8P DIo1oWqH1]Zt;^YSa;N;Oa;LmrjaSAXm[vGUnAsn<va
 t:hRETaVIOLInABSCOREaRUNr=lSHIRrq<ASHaTENNIS RACnS_!F:GaSKI!FSKI BOOTaBy5HDo2u!FHOOq]9QUEq0anxgar0<
 mfpERmDzpumURFm1VPORTSnbCoooHYa<XRACm_eroSNp;6mDIabRUGBYaSWIMo8HvIHNLIFnHLGOLmAwm=@ MOTORsU6EbCARaC
 Rn:j BAmYiVnUJYmBMwUNX HOCKEY SnCNm7Jpj:m4dPUCKawJg4 mlUPADDn`w:mbH Cp6j=3aCAMp>yo56CH!A^6a_E|1xOI
 ; sd?sl0aDERELInS>m7Z_q[2pcap`NvBz`TbISLxQ5:Av3B5KaSTADIUMam;vb!AGn3oNaOFFICm?k?trr2 m3Tacsr@ANaHOS
 PITALrEkKaAUrS_qi@TEoHHnoerz2ELabrg0oeaVENIENCE STn_qp;yatcDQMENTm5AFAx:U7IZAKAYA plk?Ex;SibmMS!UPE
 NNANTwjQZWAVINGx;1;wqxdOSx9cmLABEmV4DMINTONnuJSHUqFDqYVoFm!F!PaAMPHORAaEMOJI(1FITZPATnV@ x?KW-2dm1x
 3/3aRATaMmvoaOXa:4BUFFALOaCOWaTIGx@HbPokDRABBITaCATa]XaCROCODILEaWHAr1cNquiSNqWk<XaRAMaGOArDuEEPaMO
 NKEYaROOpI;CHnuTNaDOGaPIGaoINaELEPHmk<OCTOPsy8tTVe.TaBUGam5NrWWBEEaLADYr:ymyPpVYbrDyaBLOWm49wUdGaHq
 KsoFmmI7abrDTacx8NEFoYaBIpPENGUINaKOALAaPOOr`gDROoeaRYphpLm=NCTRIAmX@LPHINmtu$6rciWabmrybmqSbmqab]X
 ouqUTmLXmqc<Xm:]mlUbmi@bmiPbFRm2LHAMmp;bWOLFabBEARabPANDAmqa NOSEaPAW wMIJSmxZPMUNKa*RaEYEam:<m7l*V
 a]Aa!UUP)SBACKsCJ%Obd!5bd!Hbd!qc]syH)9!EacnpyacOKabTHUMBS UPbb!5oazs4b[Gac$9nSNWNaWOMANS qQVEYEsQ?E
 SaNECxa7:T-pvtaJEANSax]pZaKIMONOaBIKINIm=swX26aPURSnBiNDBAGaPOUCHam7:xPWZabATHLxVpcu7TUvN73m>iSmn_L
 bq;sSaprJmnABUST IN SILHOUoREcm4HSaBOYaGIRLa*Ua>YawGoba*U!F>YHOLDmdE!IMENbcWOMENaPOLplwp@5s@yY!ABUN
 NY EARSaBRwnHeVEILx>0yBLOND HAIRmBmAGUA PI MAOwZEaaOLDER*Ub>YanuU|1siyERamXqCmrg?EOGREbGOBqy0wX6<m9
 G ANGELaEXTvJ[kREwWP>ALIENam1G MONnd`IMPxD:Ma|6DESK.RaGUrJXMo56xCA<IPqNUaom0s0yoOR$6MASSAGn=Jrp6mJ]
 RBERs7tymX8NGEaPILLaKISS!Sapp>!Ba$2aGEMpjJNEm5pssHaCOUPLE!A)2aWEDDq[voGB)2ab]Ka!ItA<Ux=9um5QGRt:K:t
 7:P!Pa=Jm4X=Rab^9abPURPLEm65t75DwHlJo6] m@d)2t7ZV(9uqCJ!AwrH5_H$SBULBamzFR!9aBOMBaSLtiIhxQhGLLIsz_a
 bSPLAsq:SWEATat;0h)Z!9mjVt9k9OOaFLEXwYemCEPSaDIZZY!9a^3t89yoVmOUGHTa!U]Za%7POo0X!9poyEY oBD]REXti5p
 a!6>4!Eaud5lsajr1ds`R!AvTR]cb>4cqgfcvTZ=m?m!AWrXNHAs[k$KTREND!Fm;CaSmZ<PERSrRyu4nVUn`FBRIEFCASEaMIN
 IDISCaFLOPPY DISKaOPwwCSm5ODVDaFmf_Fo73p5d>BwhLDq0B UPaCALENDARx<1h-OFFamZL%OmQ1cb$Ja$Ym4YaCLIPsrpa
 vvJ9Nab<7axCxNm5oa*CRULpoX<LaBOOKMARK TABSaLEDq96mnom5Nb!AnTHVE Ct;Y:(Ym5_ab$9neF=Jab[Xm?[SawMlgBAD
 Grs8ROLLaMEMOa<I_8aPAmCcFAXs6ASAs9oITE rsyNNAaPUBLIC xaYi LOUDSPEAKr?7EEoMwwMCVt7txOUTBOX TRAYabINB
 OXaPACKo[kE-MAIL!9aINwK6b>6a>6!Ax3[FKa(Ym6eBOX!ALOWt7lkdb)5ae$9dbm4lasg]mC2wYZQ*AaNEWSmxKaMOBnFPmN5
 c!x^ZXAT!HaVIBRtSrNEm8XpgYaNO m4PSamgh!ABpj:t98^b!AFoLPt8rWt9==TELEVoSLxGT<m6VCASsbOt9]5wwWmORaPORt
 7m^p[VEOaPRAYER BwlkHTWr3?x]p:b.Z!sf60$9$Rhwq9NJ<Fb$J!F$Km4H=Fag,Aa$MBRxQzuoZDc$7an?Y!A_F$Cm36b!A!J
 .9+Hc!L.9WAVESaBtk>]Ya_HPLUGa+3MAGNIFYnJirACxV`RLOCK!AINK PENa(Ym3Trtom0qm32noqxU6@bmI8o4UaLINK!9mm
 k BUTTONa;0wxU]Kae)AacONtBb`!Awp[OSOm3s!Wac&UoRTaNO!J>W<ma@xcmA$XaINPUT!9(E%1!Dvq9hSeb!CdNUxX64dt]`
 ]d%1m6Wa;Fa_HTORCHaWt=8LxF=HaNUT!FBOLTaHOCHOaPtx20t:_^SCOPEnNbm2>CRYno0:Ga!Y*X*KxUj4?EmNDwNQGERauuR
 6 EMBLEMwoAFmgewq^X%HRED$Rbb=Jb[X(9boi9!C[Xm2=:3RED&Xac;6acxKNz;6x4VexAbSxAX<%4(ZPOMMEEam20!At[OfVb
 m6h[V!Hx`xCyp]5xA44mVTnA2S CHAPppo!U%1xC=fCELsPixFiXDOVqVEwNr6aKAABAaMOSQUrMJNAGOGUEaMENORvfEk3tn2j
 njcOWLm<HwoLyIAaCn_a$6!JOm2=v8lOvSyd:Lcb:Btt>HwOeEcTWOm2QHREm5CFOURm2bIVm5CSIXm2PwOzsm2qEoNLm2qNImE
 5m7rLm:uTWELmC7a!GoV?coV@doVCULLHORNb!Am4<pq4t>3lLqNFaCt>FnMpGNLPIECExTPc!RxJkapS6PIRACYaHsUF*UIN B
 USIoyHxI]4 pMBTsJUrvkUTH OR SPYaDqeySUNt87^wn=tbWEBaJOYspe*UstZm<y!H)9qZmq[t!A>Ba!Gm3v!UtYB8siX<IxA
 yL<ION&UOFq0AMaCLAMSHELLpyMa;0OF>6abSTAMPEDqRM_VaFLYqUqbPEN$Am6Wp;GED rH1Sa!RrMMoD0HxEGGcsJ4sEhpPec
 bxF;=cPAINTwaxdCRAYwgyate_g)9a$VOKt95J)5)9!A,GSPx1phf%At96vsKJ!5xEeG)9bm9V!8?A=Nm<JwPii+V!8!F$2,Ga!
 U!5)Smu8%Oab>N!U!H)Scx@oERva[tabm2<t9W;bd!Gm9XUPm9W5m9VUPm2<m9VUPm9`5b)2aDESKTOPs`H^B!Ft;<M!LNETWwh
 Pmm6jSxX@1Eqoet<q@CALCULAqs]!R<W.Tsj5xGzZd;SxFUhCARpZqGEaWIRED^Ba!JpZR mHBc!nUJLawcBmn;oa&Zt781<WmC
 dtG2QmNi ICONabFAXabt78MOCUMwzwiTEXTdxJL0toaHm1jact?4<wcq0ScAN Xa!Rt7Amm1Xqsmt7;XwwrGRSbFILE)Mr`wm_
 TBINx5>@;Oc>BcPADa;Ob>Bbm2<>5mL<m3uGESmP5a>Bam3uWASTEt>HYt;o:;OPADbbt7Y^nAWWINDOWatt?oIZouqXm1yu9Am
 a.Z!G!Fq@H=Fa_FXx4GMuNAFT SIZE!9adwR67an28wQsRa&Zr`Vt?gHD-UP sju>Bs;ZmxZawY8u t7sA]TtAd`oUws6>ING,2
 t:gU!LRAYSz1a=!Hx72r^3BUBBLEwidmm3FSnVQ!Ht8zi m87b!Ht9LDm2oMOODac_Vm1xwt]6?Wb*1Xbcm2]bc)Vbdm2<a$S;B
 !Sm7n)V;BaWORLD MAPaxVc5FUJIaTOKYO TOWExKm<TUqz7LIBEq@0m]nm4jJAPANaMOYAIaGRwT=x$6c!A,P*Ra$6no0ARSm9
 GOYa,Pm48$9*Vf!Fm7ZgCOLDt9p7gTqbFLY-trWVD*uvHuOdqQ6SaWINKmCdm>UmD^SAVtqI6xDjWCIOUStBsURELIEVEDm:bHE
 ARv?4nmCdqE6MIRmCvb*WabEXnV4LESSabUNAMUSEDm]YmUuawjERVt=IeNFm7Zm2>OUxJMWKISSqSR$6THRxYCOA m4Xam5bm[
 Vdb(YmDISTUCK-OUT]Ae!Fmel EYEfmnZxKZPPqAhmbWbWOxLQVxiiqRYabt=d@abCRqWkqWJRrgPmr6mGKLOOKn>0TRIUMPHmA
 ` BUT mvv_LnDyaAweonmIHFEARFULabWEAmIFt;DmYabTp`NabGRIMArASbLOUDLY mNWm@vHUm@Bm3x!Fn2_bpa4AMtE]5 mG
 Jau5_8mKXLm=`mIzmFUDIZZmxk^8*Vb!AMEDpifMASKnxK CATndSm2]nykm4imO^enbJm:cWRY t`VinIdmBd(Y*qYgUTm4Mac
 mfQcmppnIu_Lbb,x;rkSIDEx^H]mjGpI:ING*RcNO GOOD GESqCSbOKa.RBnfLDEEPLYaSEE-NO-EVIL t?7QmVum4]abpNIm3
 GHAPPY.RRAImWZ!J)9am37 BOTH[GIN CELEBuAhP_Lb!Am^_orqqXbD[Gx=gP)StFrNd&Kx0oEm2>$Vm64bd&Kbm4jm2<abm:N
 VINEae&Kadm5_m2>!6wykVKbm4jm2<mD[BUDmDT!6mDWHtv2y QUILT$W:RexMLFSOLIDm5<!0RrkYxjSg*1)FET:RxI?x)F$9m
 2<bb>0az8ddab;P!6!MxJTddd&Ncf$Mab!6|7ac;Pm]8a+9!6*Jcb*YaCHECKtD68c*YamIzHpUcOProPtG7_ LOCOMOxR`sRAI
 LWAYs9>at?Y:SPEED TwhF0!A:It@CBm3Cx^OwOa$Sm;BqB]nCom5oMbm=NBUSab^TaTr61Ym3BBUS%8rO7m32AMBULANCEa;FE
 NGn?6t?W`mK3cm<iAXIm>etBeat7ppm3CRrMZtC1MVEHxmDHwWZkY xNRutDv_smAEDxS:0Ys^xspBMONOmVf=3mdUay3YHa=3C
 ABLEm4yAvMRjm^_m3BxP64ROWxMzRmmYm2=$3xO6k$rN07a|1!m[kS t>uT$Sa<LxNAoOurFXTaDOORxOI_!EaSMOKt>p3cNOab
 PUT LwiaypLmITS PLACxPqa&Dm5Pq4yTmVD:4m;BN-m3EaBItDT8mDHm2OSm4KISTab=3av[Xjm80m38Sav[V8REN(OaMENS!9
 qNTm2<xOS7OOMt@M>!9aTOILETa:4qZmsu@HrkIBATHav`T>aPAStE<ex^J;ax]ZnSaBAGGAGE CLAIMa!HLUm3Sa&XxW?paPRO
 xqeHEDw_b6xnFeBOYmPAGIRLSaCOUCH!FLAMPaq;w ACu3C>Dnv<SHtH8sBAGSt<^oHOPt:DBEDxdptWORnO7x02>AL!Em=4o6O
 aSTUuy>mGODAaHy9@4wZ2mEaHUTawofOOR@1F6DmCdYxOh?tGNHxS1<a$2BUOYxRcHt<XBxP:_OIL DRUMatEmTnpFocio56Km5
 0 nph:3tGpQ_Bb_Bxouqm0qy<^8AST-rTuran_BtxCJbARRInuTmSsF0t?6=a^ToanDxo3Zp5znI3ENGER mp[SCOOnr3mOJqwe
 NOEn9RDt:UX SAUCpERKATEpL^onh RICKSHAWxQeTUPoiZtGuOm9h@1Fv5EZLCHExQ@PQUs6LmL8CEdAIRd;Fd:Kd:4dAQUAuu
 keSm2M REGIAem1G-2eVITAEm1H-2dqU>GARm1k-u0SJULFURdbPHILOSOPHv`oy!RdxUl@^4eSUBLx8^om:^CINNABARd<8dNI
 TREdVITRIOLm1k-2dq4X<8eSALT-2dvcG2SILVERdIRx:uqEeORmOZCROCUrzSm5NdcREGULUSdCtIfJm8qdbm5_-m3ed^4OF m
 2`cm=@fm3D-2m;Uu7t>MONIATEdc<8OFm;d<8m<_VERDIGRISdTINmEqLEADdbm<lYmFVm36m?:dm49dcmu;mTnfm84mf>m4:m1
 k-2/2dALKALIm1Y-2u4X9SITEdSAL-AMmTYCdARSENICdREALmDXm1jvZhCIPIGvcz?ISMUTHmVUTARTARm1Wm8bQUICK LIMEd
 BORAXm1HnCpALUMdOILdwnMtmeyCoD@dGuU4LXdPOWDERdCALXdTUTTYdCAq8PMORTUUMdSCErLTt7@vVEdxWy7dt?4>dbSTx>F
 ]dLOpwiONEdSOAPdURINEd<XyA;gthX4dqCcdBoCZdbmIxm;sx<V6dvaoDUM SUnHmm35fm1j-2dns]IOtYtNCIPITnOFDIw]LP
 m1gSOLVEm20nk8PURIFYdPUTy[5Jm<zvQSoBLEm20o9o3dxUuwdqE_tN0zRYfVAPOURnKNTORTdHOURdNuDeaDAY-m2>ve8A$TD
 RAMeOUNComb80xZnVISOSw?XL!G&Xbd:3bd*Zbd;6t7t:x7Peb%C)V!Uac)Vt?UBd+9ad?9avhwyxZxda<7TARGxYnZTINY$Wbm
 >lab$S!UxQJzm>tW>2x865eb%Ca$Wm@9(9bbm64bm=O!U(9m9ym9W(9m9`=Zm9a=Zm9VaTHINxSAl$SmLmmKsbmM`?9m7;^1mSs
 x]`K)VxRDqc+9ac?xQuDQxREkd%Cadm=o!6ae+9ae?9mC2!Ym5am5nZm5jmAWLxS7paem5o!LmIwm4H>Gabx50Om67Nm65Nm65e
 *YmSRmOJm7LmYg%C!Ym2<xSGO>Gm:MZm6zf+n3N6!ZmDL:Bm68db>Ga%4&XactV6MWm1wn[oE0a%H[X$Rbb^9bb=RbtEosbbBRO
 WNbREDnNa=Jbb[Xm80m8?m?kF0a!6(S!noP800xpsCC&X*6x4stxpt9%Cm4xA%Hm4qm@@10abm@Tx76>m=MAx7Xlmf>!0be$Kbe
 !Wbe$JbmESbf$Kbf!Wbm<yx6x5xyluSHAFTmD@x8NvmVYm5M)Vm5LmV5mfjm5B+9x8La!0u7fl-POSTx8qGm@R(3m44t=xzEDm5
 emiS6x8svm3sm7qmyc5myb;mF^x9:Ax;9Em;c60abxSDS0$S&Abd$KxP^`$Jbdm>Tcdt:EWcdmA6x8=GbmEpcct:Bvccm7L%Cm?
 Em?I!6m7sm7zd!0+9nPUem7le&Sbf&Kce&FmZ]9nv:ntomt`U!PvPgEnCwo4t[V&4niE!6!Pn^; tjp6!Jult`!J$Tf;Va!0xSm
 ^xS_Lx:tK(Nm3Tad!0&Um@amJL~pXeWx9<Em70m4Hm5`0xSk8xISrxSlMm4ImE_mOimeXB0ax:boKx:bqFcbxI21&K@1F90tD?l
 uM5REx@=`eb!Icm3eaxB8Im5CLm64e!Oc$RaDOWNWARDtun0uM6XVc$BuJqqd[VaPINCHEDtAnJ)2ap:2m4ktB;;ZIssvMOUTHt
 KagEYm3Dt<jFtSw?NERDm7knBHKt=dbnuT-BANDAGEaROBOTm7ZHUGGm7J!EOF&8t?=SCALL ME)9ab)5;0OFa_UFt::T|FtK>y
 SHAKEa)9!A%O!F!8,G;2aI LOVE YOU)9!Et>zqWBOY tP2LLOWNmHPNAUSEAn=:t=EmwdVa?BLAUGmcmaDROOLt?E4LYmY8tT:
 ]SNEEZm5OmD9!JtoIq)5t?xu!A*K*Rd!J%H!F!J!CEYmNF?ACOt>pd(Yt@oEERIOUSm64tFAP m7N*Vact?tl!F)9t>[NVOMItD
 :^Hx[u]m5>EXPLODtA4TaPREGNANT>YaBRt9^:FEEm64amZLS UP|TaSELFIEtKNItDQ8TUXEDOaMOtRIiSHRUGa.RDOtP_gTt:
 <rJUGGmpZaFENCtHHPDyo8@u<q8HLtRg<ESTLERSa:4POLOtLTZLxtkbNGt>uQWoHj]ZaDRUM!Am1FtDa@StS<bt@SUTUMBLERm
 3Tawwq@aGOAL NETaRIFLEa=Pt:wLtP[Dc?Kac;VaBOXm?[n[_aMARTvYwATv7L<oO2aCURm]HtK_kLxcREEtPLnxm8@mXat:BF
 tCAlCROu<GcTaAVOCADOaCUCUMBt;pNCONatTYiCr12TaBAGtA`htTfp=RSALADaSHAt>E6PANtT>8STUFFtIRzTm9yEGGamfpm
 7kMILKaPEANUTSaKIWIFRUITaPANCAKESaDUMPn?HORTUNE tTb8TAKEOUT)MaCHOPma1tFx3!AmyRCUP!AtUX<aCOCONUTaBRO
 CCOLIaPn`WETZELaCUTmMOEATaSANDWICHaCwvONmYhtV:eY=RaMtUF0,9mPqmhZELao9g!LtLHRYAWNtB:7t@N7o?StT8@*A!F
 m1wonxcUNEVENm=_=C*VaoMFHopRpHEFRofiaNINJAaDISGUIStA1uu:PDmDXSb!APyrdi*RaSARIaLAB COATaGOtqNDaHInr2
 tRVMn;otNUhCRABaLIOp@uxaeXt>nFURKEYaUNICORm5_vi[saDUCKaBmq0HARKaOWLaFOX$6aBtVyHFLYaDEtRMgRILLAaLIZt
 PaPHINOCEROo_MtMuTQUIDaGIRAFFEmcmZEBRAaHEDGEHOGwHR4OPODaT-REXtRXlaKyl:yOOaLLAMAnaLCxlwHIPPOnxFMUSaP
 nxXRACCnV0LOBSToptmI6TOtIU;BnG6DtW5RWANaMAMp9:aDODOaSLm2LOm^>aORuQbZANaSKUNKmtBMInV0OYmB^yRx[aBISON
 aSEALaGUIDE tQ8mROBpEuNEtQ`GuQqz REtO5dcb*PcBALDc!Um3RaBoj>,n0LOTaTOmN4SUPnYRROm2>Vn12INax^3qVESTaE
 ARquIq5> AIDt=]fIZED xaoYy3muUALaMECHANICp;xMb,LtLQVSE Wn92oNLo;l<8qvpRaxdXh)MaGARLICaONn]uFALAFELa
 WAFpUcnUloJTTEtVtKtWRAUn4uUBtSaEAt@X0t@_eNo08.RabKNEEosvbDEAFoK;wR@qLEaADULTt?NjtOrK m3uBEu;]T.Ra.m
 fqDSCARFbIN STttPuROOMbCLIMn9sm5>vO5B_4aMri<FAIRYaVAMPIREaMERtG<=aELFaGENIEaZOMBIEaBRn4T[X)2aBILx`j
 [PamG[aq9GSaoWdSOpJqnK_GIFT>6tW8utXekaJIGSAW PUZZLE[0aTEST TmmXPETRI,YaDNA!MHELIXan]TqXPABACUSa;FEX
 wz55ERnX]LBOXaBoEwm]8q_Tt?tILOTIONtWt8qgULp_XTHq6E:GOF YARnbGPINaTEDDY myPpn2OMtU[@s@8m<yxca:$YOF S
 Omg4PONsdJECEIPTaNAZAR AMULETa*W*xdhMU*O*T+EqF4wklt]Vaf!Raf*WabxdsQ+E+Dcd,Ncd:Xcd:Hcd*Tcd:Sadxdu_m6
 CadmHCm6CabmIZuBs]HImJaah!Rah*WmPQ$V+Rd,Nd:Xd:Hd*TdxeBom5Mm`Zm5Lma7!IuC?7mb;mFwmb<m7]+5cf,Ncf:Xcf:H
 cf*Tcf:Safmbzm6Cafmbxm6Cmc5L%7<Uma9EQUIHt>vFtJpRcm5:n6bn;Rm6GKNt92yQUEENcm2pROOKm2aBISHOPmpKm9Um9U@
 1FA60aXIANGQIpe^GENvb=:MANDpURctTwDx0qcvrLFcr]uONcSr;NERb!Rm;lm;rm;rmJm70asbNEr=<SaONE-tL<Hu_<8SsEV
 tQ>@qv>Ork8z3lFtSf4m>58tQtNoDPBLs1_ADHESIVE t8xnSTETHtN@kX-RAYaCRUTCHm=N80aYO-YOaKITEqvNACHUTEavoGF
 om0IC WANDaPINATAaNESovw tZ3Zm>u90aqKBEDvoNnTaqI8RAZORaAXEaDIYA tBg<BANJOtYs]vscVarC_RDqC2$4tBB4y8C
 ZvobdSAWtJnVWDRIr6aLADDox2BaMIRRORatJ>NPLUNrLUtZN=NEEDLEaKNOTaBUre4tUiM TRAPr2ZtLB]axc@LtC36s2Urimm
 D::Gaxq>^ m7K$MtP4lHAMSAmj6B0asCkWORMatVQqryLwn;waPrhVmogTaWnAsx3a6plFx7qUALa>5n1cn2j!AEGGn29Cul7hx
 dV9)2ambgSaua2U t:I@t9LH*UbqnQCt=pHu^HDLUEBt^JHtCi5t_8KOLpHTt8?OTAMAt]7:NDUt]P0POTaPtIcJLIskfBtUqLJ
 Ao4AE0aMELTt:EXSALUTtHXvt9wQ$A*VcPEEtIAfc(A*Va)E%2$6aBITmCePr^nmeIF0t:l<?A!F%D;2a!W)9ab!0t_e1xIC@%O
 )SAT&8VIEWERa)2[G@1wAdF+Wvr;pT-1/1bm2b2m2Q3m4_m2R2m4pm2d4m4om2R2m4pm2d3m55m2d2m5Fm2u5m54m2R2m4pm2d3
 m7Qm2d1m2u4m5Em2d2m5Fm2u3m5Vm2u2m5hm3;6m5Dm2R2m4pm2d3m55m2d2m5Fm2u4m5Em2e2m2t3m5Vm2u2m5hm3;5m5Um2d2
 m5Fm2u3m5Vm2u2m5hm3;4m5gm2u2m5hm3;3m5xm32n9[6tOnc+W(A$N!8xnq=%3jxo=gm3[fm2abb!Gm:Lm6z0m9wm=S0m9ym2a
 fm50m9hGfc%3m>ufe!Hm2`0m2^bm2_bbmN6m<Hm;Dm9=Nm9=NfbmR0!8a$0!GmZ1mZ;mZ;HmZ6mZ;mZ;mZ;mZ;GmZ4mZ;mZ;b!F
 xpBQ<L!L:V+WaexpHvm5>am[BFm3Tm5@m3SGbb<L!J(5m6uaem8by?@mJ*9BLOCK-2/5a$3m3]m?LxpdWcd$0af!Gcd$Naf$0m9
 onuTn0]mDy+Wxpx@c!Qxq89!Gm6um4Hm6dx=iLCSHADx>ZUmGkmFuc?DadxqNvmND$Tc?Dm8dm3T+Wq2L94acm>Tm6K!GtJn` x
 p:qd?mMo6$3axpucbxpuabn0NmBmad!Hm?;m8a<LmC5xp1bxuBTnH@nAci!GenfPfd!Gedm6[dm6lm4[Ghe$0em7q!Fm4Xm7<m:
 Lm3SHjm:tHim><mAlm>YGmK8m4pHe(9d$3y9G0xHIZvO`rxq;v?y1A:n=[t`KH*Uxpqwy;00tC_jnjRn]kaitBZvm5>xXn>Km>f
 tQN2xSAJOIDEDtDw4!G$9(3!Oa.A(A(ZcmW@c(9a!U!6^1tJ7T!H;V!U!G)S%Oaf!8nsHm;s3yAlwt>4PtjSac!AARMS)5cLEAm
 X0xJGeAt[wI!U:3xhU4na]F0y43^EDtrBPz9Zx0001aLANGUAGE TAGm482yeV]:Zbw6Lgw6Lhw6LhmJYw6Lhw6Lhw6LhtjMjtj
 Mjw6Lhw6LhmD5mD7mD7w6LhaxyfOmu;100w;8D7/82w;8d0/156"

end Componentry.Text.CharacterName
